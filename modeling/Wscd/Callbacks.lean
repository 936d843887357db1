import Wscd.Arkg
import Wscd.Lib.Traced

/-!
# Callbacks

The host's side of a ceremony: the authentication callback that asks the user, the CTAP2
transport, the random numbers and the progress callback. `W` is the state of everything
outside the call; whenever the call asks something, the outside may change it at will,
also by running other calls. `HostM` is a call that asks, with what it asked and the answers
in a log.
-/

namespace Wscd

open Lib

abbrev Secret : Type := List UInt8

/-- A P-256 secret key, a scalar other than zero. -/
abbrev SecretKey : Type := { k : Arkg.Scalar // k ≠ 0 }

/-- What the user is being asked to do with a PIN prompt. -/
inductive PinRequestKind where
  | enterPin
  | setNewPin (minLength : Nat)
  deriving DecidableEq, Repr

inductive OperationProgress where
  | started (operation : String)
  | networkRoundTrip (step total : Nat)
  | waitingForUser
  | complete
  deriving DecidableEq, Repr

/-- An error of the `r2ps_client` crate: the two variants this program builds, and the rest. -/
inductive R2psError where
  | base64 (msg : String)
  | protocol (msg : String)
  | other (msg : String)
  deriving DecidableEq, Repr

/-- Everything a call may ask, with the answer. The last three are the R2PS client's. -/
inductive HostEvent where
  | requestedPin (pluginId : String) (answer : Except WscdError Secret)
  | requestedPinFor (pluginId : String) (kind : PinRequestKind) (answer : Except WscdError Secret)
  | requestedAssertion (pluginId : String) (challenge : List UInt8) (rpId : String)
      (allowedCredentials : List (List UInt8)) (answer : Except WscdError (List UInt8))
  | sentCommand (command : List UInt8) (answer : Except WscdError (List UInt8))
  | generatedSecret (secret : SecretKey)
  | drewBytes (bytes : List UInt8)
  | recordedAssertion (authenticatorData : String)
  | authenticated (pin : Secret) (answer : Except R2psError Unit)
  | rawSigned (kid data : List UInt8) (answer : Except R2psError (List UInt8))

abbrev HostM (W α : Type) : Type := Traced HostEvent W WscdError α

structure AuthCallback (W : Type) where
  requestPin : String → W → Except WscdError Secret × W
  requestPinFor : String → PinRequestKind → W → Except WscdError Secret × W
  requestWebauthnAssertion : String → List UInt8 → String → List (List UInt8) → W →
    Except WscdError (List UInt8) × W

structure Ctap2Transport (W : Type) where
  ctap2SendCommand : List UInt8 → W → Except WscdError (List UInt8) × W
  performsUserVerification : W → Bool

structure ProgressCallback (W : Type) where
  onProgress : OperationProgress → W → W

/-- The random numbers: octets, and P-256 secret keys. -/
structure Rng (W : Type) where
  bytes : Nat → W → List UInt8 × W
  secretKey : W → SecretKey × W
  length_bytes : ∀ n w, (bytes n w).1.length = n

theorem Rng.length_zeros {W : Type} (n : Nat) (w : W) :
    ((List.replicate n 0, w) : List UInt8 × W).1.length = n := List.length_replicate

theorem Rng.length_repeated {W : Type} (octet : W → UInt8) (next : W → W) (n : Nat) (w : W) :
    ((List.replicate n (octet w), next w) : List UInt8 × W).1.length = n := List.length_replicate

theorem SecretKey.one_ne_zero : (1 : Arkg.Scalar) ≠ 0 := by decide

/-- The outside says which octet comes, and goes on to the next. -/
def Rng.repeating {W : Type} (octet : W → UInt8) (next : W → W) : Rng W where
  bytes n w := (List.replicate n (octet w), next w)
  secretKey w := (⟨1, SecretKey.one_ne_zero⟩, w)
  length_bytes := length_repeated octet next

variable {W T : Type}

/-! ## Asking -/

namespace HostM

def requestPin (auth : AuthCallback W) (pluginId : String) : HostM W Secret :=
  Traced.ask (auth.requestPin pluginId) (.requestedPin pluginId)

def requestPinFor (auth : AuthCallback W) (pluginId : String) (kind : PinRequestKind) :
    HostM W Secret :=
  Traced.ask (auth.requestPinFor pluginId kind) (.requestedPinFor pluginId kind)

def requestWebauthnAssertion (auth : AuthCallback W) (pluginId : String) (challenge : List UInt8)
    (rpId : String) (allowedCredentials : List (List UInt8)) : HostM W (List UInt8) :=
  Traced.ask (auth.requestWebauthnAssertion pluginId challenge rpId allowedCredentials)
    (.requestedAssertion pluginId challenge rpId allowedCredentials)

def sendCommand (transport : Ctap2Transport W) (command : List UInt8) : HostM W (List UInt8) :=
  Traced.ask (transport.ctap2SendCommand command) (.sentCommand command)

def generateSecret (rng : Rng W) : HostM W SecretKey := Traced.draw rng.secretKey .generatedSecret

def randomBytes (rng : Rng W) (n : Nat) : HostM W (List UInt8) :=
  Traced.draw (rng.bytes n) .drewBytes

def onProgress (progress : ProgressCallback W) (p : OperationProgress) : HostM W Unit :=
  Traced.modify (progress.onProgress p)

end HostM

/-! ## The outside beside a state of one's own -/

def AuthCallback.beside (auth : AuthCallback W) : AuthCallback (W × T) where
  requestPin pluginId w :=
    ((auth.requestPin pluginId w.1).1, (auth.requestPin pluginId w.1).2, w.2)
  requestPinFor pluginId kind w :=
    ((auth.requestPinFor pluginId kind w.1).1, (auth.requestPinFor pluginId kind w.1).2, w.2)
  requestWebauthnAssertion pluginId challenge rpId allowed w :=
    ((auth.requestWebauthnAssertion pluginId challenge rpId allowed w.1).1,
      (auth.requestWebauthnAssertion pluginId challenge rpId allowed w.1).2, w.2)

def Ctap2Transport.beside (transport : Ctap2Transport W) : Ctap2Transport (W × T) where
  ctap2SendCommand command w :=
    ((transport.ctap2SendCommand command w.1).1, (transport.ctap2SendCommand command w.1).2, w.2)
  performsUserVerification w := transport.performsUserVerification w.1

def Rng.beside (rng : Rng W) : Rng (W × T) where
  bytes n w := ((rng.bytes n w.1).1, (rng.bytes n w.1).2, w.2)
  secretKey w := ((rng.secretKey w.1).1, (rng.secretKey w.1).2, w.2)
  length_bytes n w := rng.length_bytes n w.1

def ProgressCallback.beside (progress : ProgressCallback W) : ProgressCallback (W × T) where
  onProgress p w := (progress.onProgress p w.1, w.2)

/-! ## What a log says -/

/-- The PINs the user was asked for and gave, in order. -/
def HostEvent.givenPin : HostEvent → Option (String × Secret)
  | .requestedPin pluginId (.ok secret) => some (pluginId, secret)
  | .requestedPinFor pluginId _ (.ok secret) => some (pluginId, secret)
  | _ => none

def givenPins (log : List HostEvent) : List (String × Secret) := log.filterMap HostEvent.givenPin

/-- The event is a PIN prompt, whatever came of it. -/
def HostEvent.isPinRequest : HostEvent → Bool
  | .requestedPin .. | .requestedPinFor .. => true
  | _ => false

/-- The authenticator data of the assertions a ceremony returned, in order. -/
def HostEvent.assertion : HostEvent → Option String
  | .recordedAssertion authenticatorData => some authenticatorData
  | _ => none

def assertions (log : List HostEvent) : List String := log.filterMap HostEvent.assertion

theorem givenPins_append (l₁ l₂ : List HostEvent) :
    givenPins (l₁ ++ l₂) = givenPins l₁ ++ givenPins l₂ := List.filterMap_append

end Wscd
