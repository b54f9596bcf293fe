import MailDiscovery.Xml.Character

namespace MailDiscovery.Xml

structure QName where
  qualifier : String
  base : String
  deriving DecidableEq, Repr

structure RawAttribute where
  name : QName
  value : List Char
  deriving DecidableEq, Repr

inductive Token where
  | opening (name : QName) (attributes : List RawAttribute) (closed : Bool)
  | closing (name : QName)
  | text (raw : List Char)
  | cdata (raw : List Char)
  | comment (content : List Char)
  | instruction (target : List Char) (content : List Char)
  deriving DecidableEq, Repr

def skipSpaces (cs : List Char) : List Char :=
  cs.dropWhile isSpace

theorem length_skipSpaces_le (cs : List Char) : (skipSpaces cs).length ≤ cs.length :=
  (List.dropWhile_sublist _).length_le

def upTo? (marker : List Char) : List Char → Option (List Char × List Char)
  | [] => none
  | c :: cs =>
    if marker.isPrefixOf (c :: cs) then some ([], (c :: cs).drop marker.length)
    else (upTo? marker cs).map fun r => (c :: r.1, r.2)

theorem length_of_upTo? {marker cs : List Char} {r : List Char × List Char} (h : upTo? marker cs = some r) :
    r.2.length ≤ cs.length := by
  fun_induction upTo? marker cs generalizing r with
  | case1 => simp at h
  | case2 =>
    obtain rfl := Option.some.inj h
    exact (List.drop_sublist _ _).length_le
  | case3 c cs _ ih =>
    obtain ⟨u, hu, rfl⟩ := Option.map_eq_some_iff.1 h
    exact Nat.le_succ_of_le (ih (r := u) hu)

def holds (marker cs : List Char) : Bool :=
  (upTo? marker cs).isSome

def charsUpTo? (marker cs : List Char) : Option (List Char × List Char) :=
  (upTo? marker cs).filter fun r => r.1.all isChar

theorem length_of_charsUpTo? {marker cs : List Char} {r : List Char × List Char}
    (h : charsUpTo? marker cs = some r) : r.2.length ≤ cs.length :=
  length_of_upTo? (Option.filter_eq_some_iff.1 h).1

def startsName (cs : List Char) : Bool :=
  cs.head?.any isNameStart

def QName.read? (cs : List Char) : Option (QName × List Char) :=
  let name := cs.takeWhile isNameChar
  let rest := cs.dropWhile isNameChar
  match name.dropWhile (· != ':') with
  | [] => if startsName name then some (⟨"", String.ofList name⟩, rest) else none
  | _ :: base =>
    let qualifier := name.takeWhile (· != ':')
    if base.contains ':' || !startsName base || !(qualifier.isEmpty || startsName qualifier) then none
    else some (⟨String.ofList qualifier, String.ofList base⟩, rest)

theorem QName.length_of_read? {cs : List Char} {r : QName × List Char} (h : QName.read? cs = some r) :
    r.2.length ≤ cs.length := by
  have hr : r.2 = cs.dropWhile isNameChar := by grind [QName.read?]
  exact hr ▸ (List.dropWhile_sublist _).length_le

def RawAttribute.read? (cs : List Char) : Option (RawAttribute × List Char) :=
  match QName.read? cs with
  | none => none
  | some (name, rest) =>
    match skipSpaces rest with
    | '=' :: rest =>
      match skipSpaces rest with
      | quote :: rest =>
        let value := rest.takeWhile fun c => c != quote && c != '<'
        let rest := rest.dropWhile fun c => c != quote && c != '<'
        if (quote == '"' || quote == '\'') && value.all isChar && rest.head? == some quote then
          some (⟨name, value⟩, rest.tail)
        else none
      | [] => none
    | _ => none

theorem RawAttribute.length_of_read? {cs : List Char} {r : RawAttribute × List Char}
    (h : RawAttribute.read? cs = some r) : r.2.length < cs.length := by
  unfold RawAttribute.read? at h
  split at h
  · simp at h
  · rename_i name rest hname
    have hrest := QName.length_of_read? hname
    have hspaces := length_skipSpaces_le rest
    split at h
    · rename_i value hvalue
      have hquoted := length_skipSpaces_le value
      rw [hvalue, List.length_cons] at hspaces
      split at h
      · rename_i quote text htext
        have hend := (List.dropWhile_sublist fun c => c != quote && c != '<' : (text.dropWhile _).Sublist text).length_le
        rw [htext, List.length_cons] at hquoted
        grind
      · simp at h
    · simp at h

def attributes? (cs : List Char) : Option (List RawAttribute × Bool × List Char) :=
  match skipSpaces cs with
  | '>' :: rest => some ([], false, rest)
  | '/' :: '>' :: rest => some ([], true, rest)
  | _ =>
    if cs.head?.all (!isSpace ·) then none
    else match _ : RawAttribute.read? (skipSpaces cs) with
      | none => none
      | some (read, rest) => (attributes? rest).map fun r => (read :: r.1, r.2)
termination_by cs.length
decreasing_by
  have hrest := RawAttribute.length_of_read? ‹_›
  exact Nat.lt_of_lt_of_le hrest (length_skipSpaces_le cs)

theorem length_of_attributes? {cs : List Char} {r : List RawAttribute × Bool × List Char}
    (h : attributes? cs = some r) : r.2.2.length ≤ cs.length := by
  fun_induction attributes? cs generalizing r with
  | case1 cs rest hspaces =>
    have := length_skipSpaces_le cs
    grind
  | case2 cs rest hspaces =>
    have := length_skipSpaces_le cs
    grind
  | case3 => simp at h
  | case4 => simp at h
  | case5 cs _ read rest hread _ _ ih =>
    obtain ⟨u, hu, rfl⟩ := Option.map_eq_some_iff.1 h
    have hrest := RawAttribute.length_of_read? hread
    have := length_skipSpaces_le cs
    have := ih (r := u) hu
    grind

namespace Token

def comment? (cs : List Char) : Option (Token × List Char) :=
  match charsUpTo? ['-', '-', '>'] cs with
  | some (content, rest) =>
    if holds ['-', '-'] content || content.getLast? == some '-' then none
    else some (.comment content, rest)
  | none => none

def cdata? (cs : List Char) : Option (Token × List Char) :=
  (charsUpTo? [']', ']', '>'] cs).map fun r => (.cdata r.1, r.2)

/-- A declaration is no instruction, and stands at the very start or nowhere. -/
def instruction? (cs : List Char) : Option (Token × List Char) :=
  let target := cs.takeWhile isNameChar
  if ['x', 'm', 'l', ' '].isPrefixOf cs || !startsName target then none
  else (charsUpTo? ['?', '>'] (skipSpaces (cs.dropWhile isNameChar))).map fun r =>
    (.instruction target r.1, r.2)

def closing? (cs : List Char) : Option (Token × List Char) :=
  match QName.read? cs with
  | none => none
  | some (name, rest) =>
    match skipSpaces rest with
    | '>' :: rest => some (.closing name, rest)
    | _ => none

def opening? (cs : List Char) : Option (Token × List Char) :=
  match QName.read? cs with
  | none => none
  | some (name, rest) => (attributes? rest).map fun r => (.opening name r.1 r.2.1, r.2.2)

def text? (cs : List Char) : Option (Token × List Char) :=
  let raw := cs.takeWhile (· != '<')
  if raw.all isChar && !holds [']', ']', '>'] raw then some (.text raw, cs.dropWhile (· != '<')) else none

def next? : List Char → Option (Token × List Char)
  | '<' :: '!' :: '-' :: '-' :: cs => comment? cs
  | '<' :: '!' :: '[' :: 'C' :: 'D' :: 'A' :: 'T' :: 'A' :: '[' :: cs => cdata? cs
  | '<' :: '!' :: _ => none
  | '<' :: '?' :: cs => instruction? cs
  | '<' :: '/' :: cs => closing? cs
  | '<' :: cs => opening? cs
  | cs => text? cs

theorem length_of_comment? {cs : List Char} {r : Token × List Char} (h : comment? cs = some r) :
    r.2.length ≤ cs.length := by
  unfold comment? at h
  split at h
  · rename_i hread
    have := length_of_charsUpTo? hread
    grind
  · simp at h

theorem length_of_cdata? {cs : List Char} {r : Token × List Char} (h : cdata? cs = some r) :
    r.2.length ≤ cs.length := by
  obtain ⟨u, hu, rfl⟩ := Option.map_eq_some_iff.1 h
  exact length_of_charsUpTo? hu

theorem length_of_instruction? {cs : List Char} {r : Token × List Char} (h : instruction? cs = some r) :
    r.2.length ≤ cs.length := by
  simp only [instruction?] at h
  split at h
  · simp at h
  · obtain ⟨u, hu, rfl⟩ := Option.map_eq_some_iff.1 h
    have hread := length_of_charsUpTo? hu
    have hspaces := length_skipSpaces_le (cs.dropWhile isNameChar)
    have hname := (List.dropWhile_sublist isNameChar : (cs.dropWhile isNameChar).Sublist cs).length_le
    exact Nat.le_trans hread (Nat.le_trans hspaces hname)

theorem length_of_closing? {cs : List Char} {r : Token × List Char} (h : closing? cs = some r) :
    r.2.length ≤ cs.length := by
  unfold closing? at h
  split at h
  · simp at h
  · rename_i name rest hname
    have hrest := QName.length_of_read? hname
    have hspaces := length_skipSpaces_le rest
    grind

theorem length_of_opening? {cs : List Char} {r : Token × List Char} (h : opening? cs = some r) :
    r.2.length ≤ cs.length := by
  unfold opening? at h
  split at h
  · simp at h
  · rename_i name rest hname
    obtain ⟨u, hu, rfl⟩ := Option.map_eq_some_iff.1 h
    exact Nat.le_trans (length_of_attributes? hu) (QName.length_of_read? hname)

theorem length_of_text? {c : Char} {cs : List Char} {r : Token × List Char} (hc : c ≠ '<')
    (h : text? (c :: cs) = some r) : r.2.length ≤ cs.length := by
  have hr : r.2 = cs.dropWhile (· != '<') := by grind [text?, List.dropWhile_cons]
  exact hr ▸ (List.dropWhile_sublist _).length_le

theorem length_of_next? {cs : List Char} {r : Token × List Char} (hcs : cs ≠ []) (h : next? cs = some r) :
    r.2.length < cs.length := by
  unfold next? at h
  split at h
  · exact Nat.lt_add_right 3 (Nat.lt_succ_of_le (length_of_comment? h))
  · exact Nat.lt_add_right 8 (Nat.lt_succ_of_le (length_of_cdata? h))
  · simp at h
  · exact Nat.lt_add_right 1 (Nat.lt_succ_of_le (length_of_instruction? h))
  · exact Nat.lt_add_right 1 (Nat.lt_succ_of_le (length_of_closing? h))
  · exact Nat.lt_succ_of_le (length_of_opening? h)
  · rename_i hmarkup
    obtain ⟨c, cs, rfl⟩ := List.exists_cons_of_ne_nil hcs
    have hc : c ≠ '<' := fun hc => hmarkup cs (hc ▸ rfl)
    exact Nat.lt_succ_of_le (length_of_text? hc h)

def scan? (cs : List Char) : Option (List Token) :=
  if _ : cs = [] then some []
  else match _ : next? cs with
    | none => none
    | some (token, rest) => (scan? rest).map (token :: ·)
termination_by cs.length
decreasing_by exact length_of_next? ‹_› ‹_›

end Token

end MailDiscovery.Xml
