namespace MailDiscovery.LegacyPath

/-- Equal up to case; the long s is a form of the letter s. -/
def folds (expected c : Char) : Bool :=
  c.toLower == expected || (expected == 's' && c == '\u017f')

def afterWord? : List Char → List Char → Option (List Char)
  | [], cs => some cs
  | _ :: _, [] => none
  | w :: ws, c :: cs => if folds w c then afterWord? ws cs else none

def afterSlash? : List Char → Option (List Char)
  | [] => none
  | c :: cs => if c = '/' then some cs else afterSlash? cs

theorem length_afterSlash?_lt {cs rest : List Char} (h : afterSlash? cs = some rest) :
    rest.length < cs.length := by
  induction cs with
  | nil => simp [afterSlash?] at h
  | cons c cs ih =>
    simp only [afterSlash?] at h
    split at h
    · simp_all
    · have := ih h
      simp only [List.length_cons]
      omega

def afterSegment? : List Char → Option (List Char)
  | [] => none
  | c :: cs => if c = '/' then none else afterSlash? cs

theorem length_afterSegment?_lt {cs rest : List Char} (h : afterSegment? cs = some rest) :
    rest.length < cs.length := by
  cases cs with
  | nil => simp [afterSegment?] at h
  | cons c cs =>
    simp only [afterSegment?] at h
    split at h
    · simp at h
    · have := length_afterSlash?_lt h
      simp only [List.length_cons]
      omega

def folder : List Char := "/autodiscover/".toList

def document : List Char := "autodiscover.xml".toList

def leadsToDocument (cs : List Char) : Bool :=
  (afterWord? document cs).isSome ||
    match _h : afterSegment? cs with
    | some rest => leadsToDocument rest
    | none => false
termination_by cs.length
decreasing_by exact length_afterSegment?_lt (by assumption)

def occursIn : List Char → Bool
  | [] => false
  | c :: cs => (afterWord? folder (c :: cs)).any leadsToDocument || occursIn cs

end MailDiscovery.LegacyPath

namespace MailDiscovery

def isLegacyPath (path : String) : Bool :=
  LegacyPath.occursIn path.toList

end MailDiscovery
