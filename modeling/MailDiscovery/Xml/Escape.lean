namespace MailDiscovery.Xml

def markup : List Char :=
  ['<', '>', '&']

theorem mem_markup {c : Char} : c ∈ markup ↔ c = '<' ∨ c = '>' ∨ c = '&' := by
  simp only [markup, List.mem_cons, List.not_mem_nil, or_false]

def escapeChar (c : Char) : List Char :=
  if c = '<' then ['&', 'l', 't', ';']
  else if c = '>' then ['&', 'g', 't', ';']
  else if c = '&' then ['&', 'a', 'm', 'p', ';']
  else [c]

def escaped (cs : List Char) : List Char :=
  cs.flatMap escapeChar

def isMarkupByte (b : UInt8) : Bool :=
  markup.any fun c => b == c.toUInt8

theorem isMarkupByte_iff {b : UInt8} : isMarkupByte b = true ↔ ∃ c ∈ markup, b = c.toUInt8 := by
  simp only [isMarkupByte, List.any_eq_true, beq_iff_eq]

theorem isUTF8FirstByte_of_markup {c : Char} (h : c ∈ markup) : c.toUInt8.IsUTF8FirstByte := by
  rcases mem_markup.1 h with rfl | rfl | rfl
  · decide
  · decide
  · decide

theorem isValid_of_findIdx? {s : String} {i : Nat} (h : s.toUTF8.data.toList.findIdx? isMarkupByte = some i) :
    (⟨i⟩ : String.Pos.Raw).IsValid s := by
  obtain ⟨hi, hmarkup, -⟩ := List.findIdx?_eq_some_iff_getElem.1 h
  obtain ⟨c, hc, hbyte⟩ := isMarkupByte_iff.1 hmarkup
  have hfirst := isUTF8FirstByte_of_markup hc
  rw [← hbyte] at hfirst
  exact String.Pos.Raw.isValid_iff_isUTF8FirstByte.2 (.inr ⟨hi, hfirst⟩)

def firstMarkup? (s : String) : Option s.Pos :=
  match h : s.toUTF8.data.toList.findIdx? isMarkupByte with
  | none => none
  | some i => some (s.pos ⟨i⟩ (isValid_of_findIdx? h))

/-- A text without markup is left as it is, and what stands before the first markup character is copied. -/
def escape (s : String) : String :=
  match firstMarkup? s with
  | none => s
  | some p => (s.sliceTo p).copy ++ String.ofList (escaped (s.sliceFrom p).copy.toList)

def simpleElement (name : String) (content : String) : String :=
  "<" ++ name ++ ">" ++ escape content ++ "</" ++ name ++ ">"

def wrap (name : String) (markup : String) : String :=
  "<" ++ name ++ ">" ++ markup ++ "</" ++ name ++ ">"

end MailDiscovery.Xml
