import EasyMc.Client.LoopbackPlan
import EasyMc.Desktop.HostTunnel

/-!
# What the diagnostics of the two ends show

Both ends take their secrets out of the strings of their diagnostics, one secret after the other, and put labels in
brackets in their place.  A token has no brackets and is longer than what stands in the brackets of a label, so that none
comes about where a label is put in, whatever the secrets have in common (`diagnostics_hide_tokens`).
-/

namespace EasyMc.Client

open Desktop (TunnelSecrets redactTunnelDiagnostics redactTunnelSecrets isTunnelSecretKey)

/-- The characters of base64url. -/
def isBase64Url (c : Char) : Bool := Regex.isWord c || c = '-'

/-- A token, such as 18 random bytes or more in base64url. -/
structure IsToken (secret : String) : Prop where
  chars : ∀ c ∈ secret.toList, isBase64Url c = true
  length : 24 ≤ secret.toList.length

theorem IsToken.ne_nil {secret : String} (h : IsToken secret) : secret.toList ≠ [] := by
  intro hnil
  have hlength := h.length
  rw [hnil] at hlength
  cases hlength

theorem IsToken.not_mem {secret : String} (h : IsToken secret) {c : Char} (hc : isBase64Url c = false) :
    c ∉ secret.toList := by
  intro hmem
  rw [h.chars c hmem] at hc
  cases hc

/-- A text in brackets that is shorter than a token. -/
structure IsLabel (label : String) (body : List Char) : Prop where
  brackets : label.toList = '[' :: (body ++ [']'])
  short : body.length < 24

theorem isLabel_invite : IsLabel "[redacted:invite_token]" "redacted:invite_token".toList := ⟨by decide, by decide⟩

theorem isLabel_session : IsLabel "[redacted:session_token]" "redacted:session_token".toList := ⟨by decide, by decide⟩

theorem isLabel_relay : IsLabel "[redacted:relay_token]" "redacted:relay_token".toList := ⟨by decide, by decide⟩

theorem isLabel_tunnel : IsLabel "[redacted:tunnel_secret]" "redacted:tunnel_secret".toList := ⟨by decide, by decide⟩

theorem isLabel_of_mem_labelled {secrets : LoopbackSecrets} {rule : Option String × String}
    (h : rule ∈ secrets.labelled) : ∃ body, IsLabel rule.2 body := by
  simp only [LoopbackSecrets.labelled, List.mem_cons, List.not_mem_nil, or_false] at h
  rcases h with rfl | rfl | rfl
  · exact ⟨_, isLabel_invite⟩
  · exact ⟨_, isLabel_session⟩
  · exact ⟨_, isLabel_relay⟩

/-- Labels take every token that is given out of a text. -/
theorem includes_replaceGiven {rules : List (Option String × String)} {secret : String} (hsecret : IsToken secret)
    (hgiven : some secret ∈ rules.map Prod.fst) (hlabels : ∀ rule ∈ rules, ∃ body, IsLabel rule.2 body) (text : String) :
    Text.includes (Replacing.replaceGiven rules text) secret = false := by
  refine Replacing.includes_replaceGiven hgiven hsecret.ne_nil (hsecret.not_mem (c := '[') (by decide))
    (hsecret.not_mem (c := ']') (by decide)) (fun rule hrule => ?_) text
  obtain ⟨body, hlabel⟩ := hlabels rule hrule
  exact ⟨body, hlabel.brackets, Nat.lt_of_lt_of_le hlabel.short hsecret.length⟩

/-- No label has a token in it. -/
theorem includes_label {label : String} {body : List Char} (hlabel : IsLabel label body) {secret : String}
    (hsecret : IsToken secret) : Text.includes label secret = false := by
  rw [Text.includes, ← Bool.not_eq_true, Text.contains_iff, hlabel.brackets]
  intro h
  have hbody := Replacing.infix_of_infix_brackets hsecret.ne_nil (hsecret.not_mem (c := '[') (by decide))
    (hsecret.not_mem (c := ']') (by decide)) h
  exact Nat.not_le_of_lt (Nat.lt_of_lt_of_le hlabel.short hsecret.length) hbody.length_le

theorem includes_redactString {secrets : LoopbackSecrets} {secret : String} (hsecret : IsToken secret)
    (hgiven : some secret ∈ secrets.all) (value : String) : Text.includes (redactString value secrets) secret = false :=
  includes_replaceGiven hsecret hgiven (fun _ => isLabel_of_mem_labelled) value

theorem includes_redactTunnelSecrets {secrets : TunnelSecrets} {secret : String} (hsecret : IsToken secret)
    (hgiven : some secret ∈ secrets.all) (value : String) :
    Text.includes (redactTunnelSecrets value secrets) secret = false := by
  refine includes_replaceGiven hsecret ?_ (fun rule hrule => ?_) value
  · rw [List.map_map]
    exact List.mem_map.2 ⟨_, hgiven, rfl⟩
  · obtain ⟨_, -, rfl⟩ := List.mem_map.1 hrule
    exact ⟨_, isLabel_tunnel⟩

/-- No string of the diagnostics of either end contains a token among its secrets, whatever the value and the other
secrets are. -/
theorem diagnostics_hide_tokens (value : Json) (secret : String) (hsecret : IsToken secret) :
    (∀ secrets : LoopbackSecrets, some secret ∈ secrets.all → ∀ text,
      Json.Within (.str text) (redactLoopbackDiagnostics value secrets) → Text.includes text secret = false) ∧
    ∀ secrets : TunnelSecrets, some secret ∈ secrets.all → ∀ text,
      Json.Within (.str text) (redactTunnelDiagnostics value secrets) → Text.includes text secret = false := by
  constructor
  · intro secrets hgiven text hwithin
    exact Json.str_within_rewrite (P := fun text => Text.includes text secret = false)
      (includes_redactString hsecret hgiven) (fun key label hlabel => by cases hlabel) value _ hwithin text rfl
  · intro secrets hgiven text hwithin
    refine Json.str_within_rewrite (P := fun text => Text.includes text secret = false)
      (includes_redactTunnelSecrets hsecret hgiven) (fun key label hlabel => ?_) value _ hwithin text rfl
    split_ifs at hlabel
    cases hlabel
    exact includes_label isLabel_tunnel hsecret

/-- A token that stands in the other token of the sample. -/
def innerToken : String := "bcdefghijklmnopqrstuvwxy"

def outerToken : String := "abcdefghijklmnopqrstuvwxyz"

def relayDiagnostics : Json := .obj [("relayUrl", .str ("wss://relay/" ++ outerToken))]

/-- The outer token is replaced before the inner one, which is not left either. -/
theorem diagnostics_hide_tokens_relayUrl :
    Text.includes "wss://relay/[redacted:session_token]" innerToken = false ∧
      Text.includes "wss://relay/[redacted:tunnel_secret]" innerToken = false := by
  obtain ⟨hclient, hhost⟩ := diagnostics_hide_tokens relayDiagnostics innerToken
    ⟨List.all_eq_true.1 (by decide), by decide⟩
  refine ⟨hclient ⟨none, some outerToken, some innerToken⟩ (by simp [LoopbackSecrets.all, LoopbackSecrets.labelled]) _ ?_,
    hhost ⟨some outerToken, some innerToken⟩ (by simp [TunnelSecrets.all]) _ ?_⟩
  · have hredacted : redactLoopbackDiagnostics relayDiagnostics ⟨none, some outerToken, some innerToken⟩ =
        .obj [("relayUrl", .str "wss://relay/[redacted:session_token]")] := by rfl
    rw [hredacted]
    exact .field List.mem_cons_self .self
  · have hredacted : redactTunnelDiagnostics relayDiagnostics ⟨some outerToken, some innerToken⟩ =
        .obj [("relayUrl", .str "wss://relay/[redacted:tunnel_secret]")] := by rfl
    rw [hredacted]
    exact .field List.mem_cons_self .self

end EasyMc.Client
