import MailDiscovery.Proofs.Base64
import MailDiscovery.Service.Client

namespace MailDiscovery

namespace Credential

open Text (Base64.decode?)
open Text.Base64 (Writer)

/-- The name, a colon and the password, which is empty if there is none, as bytes. -/
def disclosed (username : String) (password : Option Secret) : List UInt8 :=
  (username ++ ":" ++ password.elim "" Secret.reveal).toUTF8.data.toList

variable {username other : String} {password secret : Option Secret}

theorem eq_of_append_colon {name name' rest rest' : List Char} (hn : ':' ∉ name) (hn' : ':' ∉ name')
    (h : name ++ ':' :: rest = name' ++ ':' :: rest') : name = name' ∧ rest = rest' := by
  have before {name rest : List Char} (hn : ':' ∉ name) : (name ++ ':' :: rest).takeWhile (· != ':') = name := by
    have hall : ∀ c ∈ name, (c != ':') = true := fun c hc => bne_iff_ne.2 fun he => hn (he ▸ hc)
    rw [List.takeWhile_append_of_pos hall, List.takeWhile_cons_of_neg (by decide), List.append_nil]
  have hname : name = name' := by rw [← @before name rest hn, h, before hn']
  subst hname
  exact ⟨rfl, (List.cons.inj (List.append_cancel_left h)).2⟩

theorem disclosed_injective (hu : ':' ∉ username.toList) (ho : ':' ∉ other.toList)
    (h : disclosed username password = disclosed other secret) :
    username = other ∧ password.elim "" Secret.reveal = secret.elim "" Secret.reveal := by
  have hbytes : (username ++ ":" ++ password.elim "" Secret.reveal).toUTF8 =
      (other ++ ":" ++ secret.elim "" Secret.reveal).toUTF8 :=
    ByteArray.ext (Array.toList_inj.1 h)
  have htext := congrArg String.toList (String.toByteArray_inj.1 hbytes)
  simp only [String.toList_append, List.append_assoc] at htext
  obtain ⟨hname, hpassword⟩ := eq_of_append_colon hu ho htext
  exact ⟨String.toList_inj.1 hname, String.toList_inj.1 hpassword⟩

theorem isValue_of_visible {s : String} (h : ∀ c ∈ s.toList, 0x20 ≤ c.toNat ∧ c.toNat ≤ 0x7e) :
    Http.isValue s = true := by
  rw [Http.isValue, List.all_eq_true]
  intro c hc
  have hvisible := h c hc
  simp only [Bool.or_eq_true, Bool.and_eq_true, decide_eq_true_eq, bne_iff_ne]
  omega

def basicText (username : String) (password : Option Secret) : String :=
  String.ofList (Text.Base64.encode (disclosed username password))

theorem basicHeader_eq (username : String) (password : Option Secret) :
    basicHeader username password = "Basic " ++ basicText username password :=
  rfl

theorem toList_basicText (username : String) (password : Option Secret) :
    (basicText username password).toList = Text.Base64.encode (disclosed username password) :=
  String.toList_ofList

theorem basicHeader_visible : ∀ c ∈ (basicHeader username password).toList, 0x20 ≤ c.toNat ∧ c.toNat ≤ 0x7e := by
  intro c hc
  rw [basicHeader_eq, String.toList_append, List.mem_append, toList_basicText] at hc
  rcases hc with hc | hc
  · have hscheme : "Basic ".toList.all (fun c => 0x20 ≤ c.toNat ∧ c.toNat ≤ 0x7e) = true := by decide
    exact of_decide_eq_true (List.all_eq_true.1 hscheme c hc)
  · have hvisible := Text.Base64.encode_visible hc
    omega

theorem decode?_basicText (username : String) (password : Option Secret) :
    Base64.decode? (basicText username password).toList = some (disclosed username password) := by
  rw [toList_basicText, Text.Base64.decode?_encode]

theorem basicHeader_injective (hu : ':' ∉ username.toList) (ho : ':' ∉ other.toList)
    (h : basicHeader username password = basicHeader other secret) :
    username = other ∧ password.elim "" Secret.reveal = secret.elim "" Secret.reveal := by
  apply disclosed_injective hu ho
  rw [basicHeader_eq, basicHeader_eq, String.append_right_inj] at h
  rw [← Option.some_inj, ← decode?_basicText, h, decode?_basicText]

theorem authorization_of_queryRequest {config : Config} {q : Query} {url : Uri} {request : Http.Request}
    (h : Client.queryRequest ⟨config, .basic username password⟩ q url = .ok request) :
    request.headers.filter (·.name == "authorization") = [⟨"authorization", basicHeader username password, true⟩] := by
  obtain ⟨headers, hheaders, h⟩ := Failure.of_bind_ok h
  cases hheaders
  split at h
  · cases h
    simp
  · cases h

structure Discloses (username : String) (password : Option Secret) (header : Http.Header) : Prop where
  decoded : ∃ text, header.value = "Basic " ++ text ∧ Base64.decode? text.toList = some (disclosed username password)
  written : ∀ pieces : List (List UInt8), pieces.flatten = disclosed username password →
    (pieces.foldl Writer.write { written := "Basic ".toList }).finish = header.value.toList
  visible : ∀ c ∈ header.value.toList, 0x20 ≤ c.toNat ∧ c.toNat ≤ 0x7e
  valid : Http.isValue header.value = true
  sole : ∀ config q url request, Client.queryRequest ⟨config, .basic username password⟩ q url = .ok request →
    request.headers.filter (·.name == "authorization") = [header]

theorem discloses_basicHeader (username : String) (password : Option Secret) :
    Discloses username password ⟨"authorization", basicHeader username password, true⟩ where
  decoded := ⟨basicText username password, rfl, decode?_basicText username password⟩
  written pieces h := by
    rw [Writer.finish_pieces, h, basicHeader_eq, String.toList_append, toList_basicText]
    rfl
  visible := basicHeader_visible
  valid := isValue_of_visible basicHeader_visible
  sole _ _ _ _ h := authorization_of_queryRequest h

theorem basic_header_reads_back (hu : ':' ∉ username.toList) (password : Option Secret) :
    ∃ value, (basic username password).authorization = .ok [⟨"authorization", value, true⟩] ∧
      Discloses username password ⟨"authorization", value, true⟩ ∧
      ∀ (other : String) (secret : Option Secret), ':' ∉ other.toList →
        (basic other secret).authorization = .ok [⟨"authorization", value, true⟩] →
        other = username ∧ secret.elim "" Secret.reveal = password.elim "" Secret.reveal := by
  refine ⟨basicHeader username password, rfl, discloses_basicHeader username password, fun other secret ho h => ?_⟩
  have hheader : basicHeader other secret = basicHeader username password := by simpa [authorization] using h
  exact basicHeader_injective ho hu hheader

theorem basic_header_reads_back_colons : ':' ∉ "usér".toList ∧
    (basic "usér" (some ⟨"a:b"⟩)).authorization = .ok [⟨"authorization", "Basic dXPDqXI6YTpi", true⟩] ∧
    Discloses "usér" (some ⟨"a:b"⟩) ⟨"authorization", "Basic dXPDqXI6YTpi", true⟩ ∧
    (basic "usér" none).authorization ≠ .ok [⟨"authorization", "Basic dXPDqXI6YTpi", true⟩] := by
  have hname : ':' ∉ "usér".toList := by decide
  have hvalue : basicHeader "usér" (some ⟨"a:b"⟩) = "Basic dXPDqXI6YTpi" := by decide +kernel
  obtain ⟨value, hauthorization, hdiscloses, hother⟩ := basic_header_reads_back hname (some ⟨"a:b"⟩)
  obtain rfl : value = "Basic dXPDqXI6YTpi" := by
    rw [← hvalue]
    simpa [authorization] using hauthorization.symm
  refine ⟨hname, hauthorization, hdiscloses, fun h => ?_⟩
  exact absurd (hother "usér" none hname h).2 (by decide)

end Credential

end MailDiscovery
