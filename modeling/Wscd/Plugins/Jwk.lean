import Wscd.Types

/-!
# Key identifiers

A plugin names a key by the RFC 7638 thumbprint of its public JWK: SHA-256 over the
required members in lexicographic order, base64url without padding. The hash and the
base64 encoder are third-party code and stay parameters (`Digest`).
-/

namespace Wscd

namespace Json

/-- `v.get(name)` -/
def get (name : String) : Json → Option Json
  | .object members => (members.find? fun m => m.1 = name).map Prod.snd
  | _ => none

/-- `v.as_str()` -/
def asStr : Json → Option String
  | .string s => some s
  | _ => none

/-- One character of `serde_json::to_string` of a string. -/
def escapeChar (c : Char) : String :=
  if c = '"' then "\\\""
  else if c = '\\' then "\\\\"
  else if c.toNat = 0x08 then "\\b"
  else if c.toNat = 0x09 then "\\t"
  else if c.toNat = 0x0a then "\\n"
  else if c.toNat = 0x0c then "\\f"
  else if c.toNat = 0x0d then "\\r"
  else if c.toNat < 0x10 then "\\u000" ++ String.ofList (Nat.toDigits 16 c.toNat)
  else if c.toNat < 0x20 then "\\u00" ++ String.ofList (Nat.toDigits 16 c.toNat)
  else c.toString

/-- `serde_json::to_string` of a string -/
def quote (s : String) : String := "\"" ++ String.join (s.toList.map escapeChar) ++ "\""

end Json

/-- The hash and the text encoding of a digest: `sha2` and `base64ct`. -/
structure Digest where
  sha256 : List UInt8 → List UInt8
  encode : List UInt8 → String

/-- The base64url alphabet. -/
def base64urlChar (n : Nat) : Char :=
  "ABCDEFGHIJKLMNOPQRSTUVWXYZabcdefghijklmnopqrstuvwxyz0123456789-_".toList.getD n '='

def base64urlChars : List Nat → List Char
  | a :: b :: c :: rest =>
    base64urlChar (a / 4) :: base64urlChar (a % 4 * 16 + b / 16) ::
      base64urlChar (b % 16 * 4 + c / 64) :: base64urlChar (c % 64) :: base64urlChars rest
  | [a, b] =>
    [base64urlChar (a / 4), base64urlChar (a % 4 * 16 + b / 16), base64urlChar (b % 16 * 4)]
  | [a] => [base64urlChar (a / 4), base64urlChar (a % 4 * 16)]
  | [] => []

/-- Base64url without padding, what `Digest.encode` is in the source. -/
def base64url (bytes : List UInt8) : String :=
  String.ofList (base64urlChars (bytes.map UInt8.toNat))

/-- The value of a character of the alphabet. -/
def base64urlValue (c : Char) : Option Nat :=
  (List.range 64).find? fun n => base64urlChar n = c

/-- The octets of the values, none where bits are left over that are not zero. -/
def base64urlOctets : List Nat → Option (List Nat)
  | a :: b :: c :: d :: rest =>
    (base64urlOctets rest).map fun octets =>
      (a * 4 + b / 16) :: (b % 16 * 16 + c / 4) :: (c % 4 * 64 + d) :: octets
  | [a, b, c] => if c % 4 = 0 then some [a * 4 + b / 16, b % 16 * 16 + c / 4] else none
  | [a, b] => if b % 16 = 0 then some [a * 4 + b / 16] else none
  | [] => some []
  | [_] => none

/-- What `base64ct` decodes without padding. -/
def base64urlDecode (text : String) : Except String (List UInt8) :=
  match (text.toList.mapM base64urlValue).bind base64urlOctets with
  | some octets => .ok (octets.map UInt8.ofNat)
  | none => .error "invalid Base64 encoding"

theorem base64urlValue_char : ∀ n < 64, base64urlValue (base64urlChar n) = some n := by
  decide +kernel

theorem base64urlOctets_chars (octets : List Nat) (h : ∀ o ∈ octets, o < 256) :
    ((base64urlChars octets).mapM base64urlValue).bind base64urlOctets = some octets := by
  fun_induction base64urlChars octets with
  | case1 a b c rest ih =>
    obtain ⟨ha, hb, hc, hrest⟩ : a < 256 ∧ b < 256 ∧ c < 256 ∧ ∀ o ∈ rest, o < 256 := by
      simpa using h
    obtain ⟨values, hvalues, hoctets⟩ := Option.bind_eq_some_iff.mp (ih hrest)
    rw [List.mapM_cons, List.mapM_cons, List.mapM_cons, List.mapM_cons,
      base64urlValue_char _ (by omega), base64urlValue_char _ (by omega),
      base64urlValue_char _ (by omega), base64urlValue_char _ (by omega), hvalues]
    simp only [Option.bind_eq_bind, Option.bind_some, Option.pure_def, base64urlOctets, hoctets,
      Option.map_some, Option.some.injEq, List.cons.injEq, and_true]
    omega
  | case2 a b =>
    obtain ⟨ha, hb⟩ : a < 256 ∧ b < 256 := by simpa using h
    rw [List.mapM_cons, List.mapM_cons, List.mapM_cons, base64urlValue_char _ (by omega),
      base64urlValue_char _ (by omega), base64urlValue_char _ (by omega)]
    simp only [List.mapM_nil, Option.bind_eq_bind, Option.bind_some, Option.pure_def,
      base64urlOctets]
    rw [if_pos (by omega)]
    simp only [Option.some.injEq, List.cons.injEq, and_true]
    omega
  | case3 a =>
    have ha : a < 256 := by simpa using h
    rw [List.mapM_cons, List.mapM_cons, base64urlValue_char _ (by omega),
      base64urlValue_char _ (by omega)]
    simp only [List.mapM_nil, Option.bind_eq_bind, Option.bind_some, Option.pure_def,
      base64urlOctets]
    rw [if_pos (by omega)]
    simp only [Option.some.injEq, List.cons.injEq, and_true]
    omega
  | case4 => rfl

theorem base64urlDecode_base64url (octets : List UInt8) :
    base64urlDecode (base64url octets) = .ok octets := by
  have hlt : ∀ o ∈ octets.map UInt8.toNat, o < 256 := by
    intro o ho
    obtain ⟨b, -, rfl⟩ := List.mem_map.mp ho
    exact b.toNat_lt
  unfold base64urlDecode base64url
  rw [String.toList_ofList, base64urlOctets_chars _ hlt]
  dsimp only
  rw [List.map_map]
  exact congrArg Except.ok (List.map_id'' (fun _ => UInt8.ofNat_toNat) octets)

/-- The members RFC 7638 requires for a key type, in order. -/
def thumbprintMembers : String → Except WscdError (List String)
  | "EC" => .ok ["crv", "kty", "x", "y"]
  | "OKP" => .ok ["crv", "kty", "x"]
  | "RSA" => .ok ["e", "kty", "n"]
  | "oct" => .ok ["k", "kty"]
  | other => .error (.plugin s!"cannot compute a thumbprint for kty {other}")

/-- One member of the canonical form. -/
def thumbprintMember (jwk : Json) (kty name : String) : Except WscdError String :=
  match (jwk.get name).bind Json.asStr with
  | some value => .ok (Json.quote name ++ ":" ++ Json.quote value)
  | none => .error (.plugin s!"JWK of kty {kty} is missing {name}")

/-- Derive a key identifier from the key's public JWK. -/
def jwkThumbprint (digest : Digest) (jwk : Json) : Except WscdError String :=
  match (jwk.get "kty").bind Json.asStr with
  | none => .error (.plugin "JWK has no kty")
  | some kty => do
    let members ← thumbprintMembers kty
    let parts ← members.mapM (thumbprintMember jwk kty)
    let canonical := "\x7b" ++ ",".intercalate parts ++ "\x7d"
    return digest.encode (digest.sha256 canonical.toUTF8.data.toList)

end Wscd
