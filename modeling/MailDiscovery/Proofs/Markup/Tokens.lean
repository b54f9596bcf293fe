import MailDiscovery.Proofs.Markup.CharacterData

namespace MailDiscovery.Xml

theorem takeWhile_append_stop {p : Char → Bool} {cs rest : List Char} (h : ∀ c ∈ cs, p c = true)
    (hr : ∀ c ∈ rest.head?, p c = false) :
    (cs ++ rest).takeWhile p = cs ∧ (cs ++ rest).dropWhile p = rest := by
  rw [List.takeWhile_append_of_pos h, List.dropWhile_append_of_pos h]
  cases rest with
  | nil => simp
  | cons c rest => simp [hr c rfl]

theorem skipSpaces_cons {c : Char} (hc : isSpace c = false) (cs : List Char) : skipSpaces (c :: cs) = c :: cs :=
  List.dropWhile_cons_of_neg (by simp [hc])

theorem skipSpaces_space (cs : List Char) : skipSpaces (' ' :: cs) = skipSpaces cs :=
  List.dropWhile_cons_of_pos rfl

namespace QName

def isWritten (name : QName) (cs : List Char) : Bool :=
  cs.all isNameChar && startsName cs && cs.head?.any (!isSpace ·) && read? cs == some (name, [])

variable {name : QName} {cs rest : List Char}

theorem read?_append (h : name.isWritten cs = true) (hr : ∀ c ∈ rest.head?, isNameChar c = false) :
    read? (cs ++ rest) = some (name, rest) := by
  simp only [isWritten, Bool.and_eq_true, beq_iff_eq, List.all_eq_true] at h
  obtain ⟨⟨⟨hchars, -⟩, -⟩, hread⟩ := h
  obtain ⟨htake, hdrop⟩ := takeWhile_append_stop hchars hr
  obtain ⟨htake', hdrop'⟩ := takeWhile_append_stop hchars (by simp : ∀ c ∈ ([] : List Char).head?, isNameChar c = false)
  rw [List.append_nil] at htake' hdrop'
  simp only [read?, htake', hdrop'] at hread
  simp only [read?, htake, hdrop]
  split
  · simp_all
  · simp_all

theorem cons_of_isWritten (h : name.isWritten cs = true) :
    ∃ c more, cs = c :: more ∧ isSpace c = false ∧ c ≠ '!' ∧ c ≠ '?' ∧ c ≠ '/' ∧ c ≠ '>' := by
  simp only [isWritten, Bool.and_eq_true] at h
  obtain ⟨⟨⟨-, hstarts⟩, hspace⟩, -⟩ := h
  cases cs with
  | nil => cases hspace
  | cons c more =>
    have hspace : isSpace c = false := by simpa using hspace
    have hstart : isNameStart c = true := hstarts
    refine ⟨c, more, rfl, hspace, ?_, ?_, ?_, ?_⟩ <;>
    · rintro rfl
      exact absurd hstart (by decide)

def text (name : QName) : String :=
  if name.qualifier = "" then name.base else name.qualifier ++ ":" ++ name.base

end QName

namespace RawAttribute

def written (cs value : List Char) : List Char :=
  ' ' :: (cs ++ '=' :: '"' :: (value ++ ['"']))

def isValue (value : List Char) : Bool :=
  value.all fun c => isChar c && c != '"' && c != '<'

variable {name : QName} {cs value rest : List Char}

theorem read?_append (h : name.isWritten cs = true) (hv : isValue value = true) :
    read? (cs ++ '=' :: '"' :: (value ++ '"' :: rest)) = some (⟨name, value⟩, rest) := by
  have hname : QName.read? (cs ++ '=' :: '"' :: (value ++ '"' :: rest)) =
      some (name, '=' :: '"' :: (value ++ '"' :: rest)) :=
    QName.read?_append h (by simp; decide)
  simp only [isValue, List.all_eq_true, Bool.and_eq_true, bne_iff_ne] at hv
  have hstop : ∀ c ∈ value, (c != '"' && c != '<') = true := by
    intro c hc
    simp [hv c hc]
  have hchars : value.all isChar = true := List.all_eq_true.2 fun c hc => (hv c hc).1.1
  obtain ⟨htake, hdrop⟩ := takeWhile_append_stop hstop
    (by simp : ∀ c ∈ ('"' :: rest).head?, (c != '"' && c != '<') = false)
  unfold read?
  simp only [hname, skipSpaces_cons (by decide : isSpace '=' = false),
    skipSpaces_cons (by decide : isSpace '"' = false), htake, hdrop, hchars]
  rfl

end RawAttribute

theorem attributes?_end (rest : List Char) : attributes? ('>' :: rest) = some ([], false, rest) := by
  rw [attributes?, skipSpaces_cons (by decide)]
  rfl

theorem attributes?_written {name : QName} {cs value rest : List Char} (h : name.isWritten cs = true)
    (hv : RawAttribute.isValue value = true) :
    attributes? (RawAttribute.written cs value ++ rest) =
      (attributes? rest).map fun r => (⟨name, value⟩ :: r.1, r.2) := by
  have hread : RawAttribute.read? (cs ++ '=' :: '"' :: (value ++ '"' :: rest)) = some (⟨name, value⟩, rest) :=
    RawAttribute.read?_append h hv
  have hwritten : RawAttribute.written cs value ++ rest = ' ' :: (cs ++ '=' :: '"' :: (value ++ '"' :: rest)) := by
    simp [RawAttribute.written]
  obtain ⟨c, tail, rfl, hspace, -, -, hslash, hend⟩ := QName.cons_of_isWritten h
  rw [hwritten, attributes?, skipSpaces_space, List.cons_append, skipSpaces_cons hspace]
  split
  · simp_all
  · simp_all
  · rw [List.cons_append] at hread
    rw [if_neg (by simp; decide)]
    split
    · simp_all
    · simp_all

def RawAttribute.text (a : RawAttribute) : List Char :=
  written a.name.text.toList a.value

def RawAttribute.isWritten (a : RawAttribute) : Bool :=
  a.name.isWritten a.name.text.toList && isValue a.value

theorem attributes?_text {raw : List RawAttribute} (h : raw.all RawAttribute.isWritten = true) (rest : List Char) :
    attributes? (raw.flatMap RawAttribute.text ++ '>' :: rest) = some (raw, false, rest) := by
  induction raw with
  | nil => exact attributes?_end rest
  | cons a raw ih =>
    rw [List.all_cons, Bool.and_eq_true, RawAttribute.isWritten, Bool.and_eq_true] at h
    rw [List.flatMap_cons, List.append_assoc, RawAttribute.text, attributes?_written h.1.1 h.1.2, ih h.2]
    rfl

theorem head?_text (raw : List RawAttribute) (rest : List Char) :
    ∀ c ∈ (raw.flatMap RawAttribute.text ++ '>' :: rest).head?, isNameChar c = false := by
  cases raw with
  | nil => simp; decide
  | cons a raw => simp [RawAttribute.text, RawAttribute.written]; decide

namespace Token

variable {name : QName} {cs rest more : List Char}

theorem next?_opening {attributes : List RawAttribute} {closed : Bool} (h : name.isWritten cs = true)
    (hr : ∀ c ∈ rest.head?, isNameChar c = false) (ha : attributes? rest = some (attributes, closed, more)) :
    next? ('<' :: (cs ++ rest)) = some (.opening name attributes closed, more) := by
  have hopening : opening? (cs ++ rest) = some (.opening name attributes closed, more) := by
    rw [opening?, QName.read?_append h hr]
    dsimp only
    rw [ha]
    rfl
  obtain ⟨c, tail, rfl, -, hbang, hquestion, hslash, -⟩ := QName.cons_of_isWritten h
  rw [List.cons_append, next?]
  · exact hopening
  all_goals simp_all

theorem next?_closing (h : name.isWritten cs = true) (rest : List Char) :
    next? ('<' :: '/' :: (cs ++ '>' :: rest)) = some (.closing name, rest) := by
  have hread : QName.read? (cs ++ '>' :: rest) = some (name, '>' :: rest) :=
    QName.read?_append h (by simp; decide)
  rw [next?, closing?, hread]
  dsimp only
  rw [skipSpaces_cons (by decide)]
  rfl

theorem next?_text {raw : List Char} (hne : raw ≠ []) (hl : '<' ∉ raw) (hg : '>' ∉ raw)
    (hchars : ∀ c ∈ raw, isChar c = true) (rest : List Char) :
    next? (raw ++ '<' :: rest) = some (.text raw, '<' :: rest) := by
  have hstop : ∀ c ∈ raw, (c != '<') = true := by
    intro c hc
    rw [bne_iff_ne]
    rintro rfl
    exact hl hc
  obtain ⟨htake, hdrop⟩ := takeWhile_append_stop hstop (by simp : ∀ c ∈ ('<' :: rest).head?, (c != '<') = false)
  have htext : text? (raw ++ '<' :: rest) = some (.text raw, '<' :: rest) := by
    simp only [text?, htake, hdrop]
    rw [if_pos]
    rw [Bool.and_eq_true, List.all_eq_true, holds_eq_false (by decide : '>' ∈ [']', ']', '>']) hg]
    exact ⟨hchars, rfl⟩
  obtain ⟨c, tail, rfl⟩ := List.exists_cons_of_ne_nil hne
  have hc : c ≠ '<' := by
    rintro rfl
    exact hl List.mem_cons_self
  rw [List.cons_append, next?]
  · exact htext
  all_goals simp_all

end Token

end MailDiscovery.Xml
