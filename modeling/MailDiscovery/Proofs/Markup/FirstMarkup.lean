import MailDiscovery.Xml.Escape

/-!
The first markup character of a text, which is searched for among the bytes. It stands where the search stops, however
many bytes the characters before it have, so that escaping from there on is escaping every character.
-/

namespace MailDiscovery.Xml

def IsPlain (cs : List Char) : Prop :=
  ∀ c ∈ cs, c ∉ markup

instance (cs : List Char) : Decidable (IsPlain cs) :=
  List.decidableBAll (· ∉ markup) cs

def bytes (cs : List Char) : List UInt8 :=
  cs.flatMap String.utf8EncodeChar

variable {s left right : String} {before after : List Char} {c : Char}

theorem toNat_eq_of_mem_utf8EncodeChar (c : Char) :
    ∀ b ∈ String.utf8EncodeChar c, b.toNat < 128 → c.toNat = b.toNat := by
  have hc : c.toNat = c.val.toNat := rfl
  unfold String.utf8EncodeChar
  dsimp only
  -- There are one to four bytes, and where there are several, the highest bit of each is set.
  repeat' split
  all_goals
    simp only [List.mem_cons, List.not_mem_nil, or_false, forall_eq_or_imp, forall_eq, UInt8.toNat_ofNat']
    omega

theorem utf8EncodeChar_of_markup (h : c ∈ markup) :
    String.utf8EncodeChar c = [c.toUInt8] ∧ c.toUInt8.toNat = c.toNat ∧ c.toUInt8.toNat < 128 := by
  rcases mem_markup.1 h with rfl | rfl | rfl
  · decide
  · decide
  · decide

theorem mem_markup_of_byte {b : UInt8} (h : b ∈ String.utf8EncodeChar c) (hb : isMarkupByte b = true) : c ∈ markup := by
  obtain ⟨d, hd, rfl⟩ := isMarkupByte_iff.1 hb
  obtain ⟨-, hvalue, hlow⟩ := utf8EncodeChar_of_markup hd
  have hcd : c.toNat = d.toNat := (toNat_eq_of_mem_utf8EncodeChar c _ h hlow).trans hvalue
  rw [Char.toNat_inj.1 hcd]
  exact hd

theorem toList_toUTF8 (s : String) : s.toUTF8.data.toList = bytes s.toList := by
  rw [String.toUTF8_eq_toByteArray, ← String.utf8Encode_toList, List.utf8Encode, List.data_toByteArray, bytes]

theorem length_bytes (s : String) : (bytes s.toList).length = s.utf8ByteSize := by
  rw [← toList_toUTF8, Array.length_toList]
  rfl

theorem findIdx?_bytes_of_plain {cs : List Char} (h : IsPlain cs) : (bytes cs).findIdx? isMarkupByte = none := by
  rw [List.findIdx?_eq_none_iff]
  intro b hb
  obtain ⟨c, hc, hb⟩ := List.mem_flatMap.1 hb
  exact Bool.eq_false_iff.2 fun hmarkup => h c hc (mem_markup_of_byte hb hmarkup)

theorem findIdx?_bytes_append (h : IsPlain before) (hc : c ∈ markup) :
    (bytes (before ++ c :: after)).findIdx? isMarkupByte = some (bytes before).length := by
  have hbyte : isMarkupByte c.toUInt8 = true := isMarkupByte_iff.2 ⟨c, hc, rfl⟩
  have hbefore := findIdx?_bytes_of_plain h
  unfold bytes at hbefore ⊢
  rw [List.flatMap_append, List.flatMap_cons, (utf8EncodeChar_of_markup hc).1, List.singleton_append,
    List.findIdx?_append, hbefore, List.findIdx?_cons, if_pos hbyte]
  simp

theorem offset_firstMarkup? (s : String) :
    (firstMarkup? s).map (·.offset.byteIdx) = s.toUTF8.data.toList.findIdx? isMarkupByte := by
  unfold firstMarkup?
  split
  · rename_i h
    exact h.symm
  · rename_i h
    exact h.symm

theorem firstMarkup?_of_plain (h : IsPlain s.toList) : firstMarkup? s = none := by
  have hoffset := offset_firstMarkup? s
  rw [toList_toUTF8, findIdx?_bytes_of_plain h, Option.map_eq_none_iff] at hoffset
  exact hoffset

theorem firstMarkup?_append (hs : s = left ++ right) (hleft : IsPlain left.toList) (hc : c ∈ markup)
    (hright : right.toList = c :: after) : ∃ p, firstMarkup? s = some p ∧ p.Splits left right := by
  have hoffset := offset_firstMarkup? s
  rw [toList_toUTF8, hs, String.toList_append, hright, findIdx?_bytes_append hleft hc, length_bytes, ← hs,
    Option.map_eq_some_iff] at hoffset
  obtain ⟨p, hp, hbyte⟩ := hoffset
  exact ⟨p, hp, hs, String.Pos.Raw.ext hbyte⟩

theorem escape_of_plain (h : IsPlain s.toList) : escape s = s := by
  rw [escape, firstMarkup?_of_plain h]

theorem escape_of_splits {p : s.Pos} (h : firstMarkup? s = some p) (hp : p.Splits left right) :
    escape s = left ++ String.ofList (escaped right.toList) := by
  obtain ⟨hleft, hright⟩ := p.splits.eq hp
  rw [escape, h]
  dsimp only
  rw [hleft, hright]

theorem plain_or_split (s : String) : IsPlain s.toList ∨
    ∃ left right c after, s = left ++ right ∧ IsPlain left.toList ∧ c ∈ markup ∧ right.toList = c :: after := by
  cases hfind : s.toList.find? (· ∈ markup) with
  | none =>
    left
    intro c hc
    simpa using List.find?_eq_none.1 hfind c hc
  | some c =>
    right
    obtain ⟨hc, before, after, hs, hbefore⟩ := List.find?_eq_some_iff_append.1 hfind
    refine ⟨String.ofList before, String.ofList (c :: after), c, after, ?_, ?_, of_decide_eq_true hc,
      String.toList_ofList⟩
    · rw [← String.ofList_append, ← hs, String.ofList_toList]
    · rw [String.toList_ofList]
      intro d hd
      simpa using hbefore d hd

theorem escapeChar_eq_self (h : c ∉ markup) : escapeChar c = [c] := by
  rw [mem_markup, not_or, not_or] at h
  rw [escapeChar, if_neg h.1, if_neg h.2.1, if_neg h.2.2]

theorem escaped_cons (c : Char) (cs : List Char) : escaped (c :: cs) = escapeChar c ++ escaped cs :=
  List.flatMap_cons

theorem escaped_append (cs ds : List Char) : escaped (cs ++ ds) = escaped cs ++ escaped ds :=
  List.flatMap_append

theorem escaped_of_plain {cs : List Char} (h : IsPlain cs) : escaped cs = cs := by
  induction cs with
  | nil => rfl
  | cons c cs ih =>
    have hcs : IsPlain cs := fun d hd => h d (List.mem_cons_of_mem c hd)
    rw [escaped_cons, escapeChar_eq_self (h c List.mem_cons_self), ih hcs, List.singleton_append]

theorem toList_escape (s : String) : (escape s).toList = escaped s.toList := by
  rcases plain_or_split s with hplain | ⟨left, right, c, after, hs, hleft, hc, hright⟩
  · rw [escape_of_plain hplain, escaped_of_plain hplain]
  · obtain ⟨p, hfirst, hp⟩ := firstMarkup?_append hs hleft hc hright
    rw [escape_of_splits hfirst hp, hp.eq_append, String.toList_append, String.toList_append, String.toList_ofList,
      escaped_append, escaped_of_plain hleft]

end MailDiscovery.Xml
