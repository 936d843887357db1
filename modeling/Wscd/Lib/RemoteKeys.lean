/-!
# Public keys made at a distance

One party holds two secret keys, one for encapsulation and one for blinding. Another has only
their public halves, and makes public keys from them, each with a handle from which the first
party makes the secret half. This takes a key encapsulation and a blinding that are correct
each on its own.

Results:
1. `derivePrivate_of_derivePublic`: the two derivations make a pair.
2. `SignatureScheme.Correct.prehash`: hashing first keeps a signature scheme correct.
-/

namespace Lib

variable {ε PK SK BPK BSK I X K C : Type}

/-- Key encapsulation, with the randomness `I` and the context `X` as arguments. -/
structure Kem (ε PK SK I X K C : Type) where
  pair : SK → PK → Prop
  encaps : PK → I → X → Except ε (K × C)
  decaps : SK → C → X → Option K

/-- What is encapsulated for a key is what its secret half gets out. -/
def Kem.Correct (kem : Kem ε PK SK I X K C) : Prop :=
  ∀ sk pk i x k c, kem.pair sk pk → kem.encaps pk i x = .ok (k, c) → kem.decaps sk c x = some k

/-- Blinding of both halves of a key pair by a shared key `K`. -/
structure Blinding (ε BPK BSK K X : Type) where
  pair : BSK → BPK → Prop
  blindPublic : BPK → K → X → Except ε BPK
  blindPrivate : BSK → K → X → Option BSK

/-- A blinded pair is a pair. -/
def Blinding.Correct (blinding : Blinding ε BPK BSK K X) : Prop :=
  ∀ sk pk k x pk', blinding.pair sk pk → blinding.blindPublic pk k x = .ok pk' →
    ∃ sk', blinding.blindPrivate sk k x = some sk' ∧ blinding.pair sk' pk'

variable (kem : Kem ε PK SK I X K C) (blinding : Blinding ε BPK BSK K X)

/-- A public key and its handle, from the public halves. -/
def derivePublic (pkBl : BPK) (pkKem : PK) (i : I) (xKem xBl : X) : Except ε (BPK × C) :=
  match kem.encaps pkKem i xKem with
  | .error e => .error e
  | .ok (k, c) =>
    match blinding.blindPublic pkBl k xBl with
    | .error e => .error e
    | .ok pk => .ok (pk, c)

/-- The secret half of the public key with handle `c`, from the secret halves. -/
def derivePrivate (skBl : BSK) (skKem : SK) (c : C) (xKem xBl : X) : Option BSK :=
  (kem.decaps skKem c xKem).bind fun k => blinding.blindPrivate skBl k xBl

variable {kem blinding}

theorem derivePrivate_of_derivePublic (hkem : kem.Correct) (hblinding : blinding.Correct)
    {skBl : BSK} {pkBl pk : BPK} {skKem : SK} {pkKem : PK} {i : I} {xKem xBl : X} {c : C}
    (hbl : blinding.pair skBl pkBl) (hkemPair : kem.pair skKem pkKem)
    (h : derivePublic kem blinding pkBl pkKem i xKem xBl = .ok (pk, c)) :
    ∃ sk, derivePrivate kem blinding skBl skKem c xKem xBl = some sk ∧ blinding.pair sk pk := by
  unfold derivePublic at h
  split at h
  · cases h
  rename_i k c' hencaps
  split at h
  · cases h
  rename_i pk' hblind
  cases h
  obtain ⟨sk, hsk, hpair⟩ := hblinding skBl pkBl k xBl pk hbl hblind
  refine ⟨sk, ?_, hpair⟩
  rw [derivePrivate, hkem skKem pkKem i xKem k c hkemPair hencaps]
  exact hsk

/-! ## Signing -/

/-- Signing with secret keys and verifying with public keys. -/
structure SignatureScheme (SK PK M S : Type) where
  pair : SK → PK → Prop
  sign : SK → M → S
  verify : PK → M → S → Bool

namespace SignatureScheme

variable {M N S : Type} {scheme : SignatureScheme SK PK M S}

/-- What one half of a pair signs, the other verifies. -/
def Correct (scheme : SignatureScheme SK PK M S) : Prop :=
  ∀ sk pk m, scheme.pair sk pk → scheme.verify pk m (scheme.sign sk m) = true

/-- The scheme on messages that are hashed first. -/
def prehash (scheme : SignatureScheme SK PK M S) (hash : N → M) : SignatureScheme SK PK N S where
  pair := scheme.pair
  sign sk n := scheme.sign sk (hash n)
  verify pk n s := scheme.verify pk (hash n) s

theorem Correct.prehash (h : scheme.Correct) (hash : N → M) : (scheme.prehash hash).Correct :=
  fun sk pk n hpair => h sk pk (hash n) hpair

end SignatureScheme

end Lib
