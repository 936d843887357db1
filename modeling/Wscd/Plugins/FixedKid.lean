import Wscd.Manager

/-!
# A backend that hands out the kid it is told to

What a remote service could do: every key it makes has the kid `kid`, and it confirms the
level `level` for every key. The manager's own tests use such a backend to provoke a kid
collision; this one also keeps the list of the keys it holds.
-/

namespace Wscd

structure FixedKidPlugin where
  id : String
  kid : KeyId
  level : CertificationLevel
  held : List KeyId
  deriving DecidableEq, Repr

namespace FixedKidPlugin

def generateKey : PluginM FixedKidPlugin Unit GeneratedKey := fun self env =>
  if self.kid ∈ self.held then (.error (.plugin "the key is already there"), self, env)
  else (.ok ⟨self.kid, .null⟩, { self with held := self.kid :: self.held }, env)

def deleteKey (kid : KeyId) : PluginM FixedKidPlugin Unit Unit := fun self env =>
  if kid ∈ self.held then (.ok (), { self with held := self.held.filter (· ≠ kid) }, env)
  else (.error (.keyNotFound kid.asStr), self, env)

def importKey : PluginM FixedKidPlugin Unit MigrationResult := fun self env =>
  match generateKey self env with
  | (.ok g, self', env') => (.ok (.migrated g.kid), self', env')
  | (.error e, self', env') => (.error e, self', env')

def keyInfo (self : FixedKidPlugin) (kid : KeyId) : KeyInfo := ⟨kid, .es256, self.id, 0⟩

def securityProperties (self : FixedKidPlugin) : SecurityProperties :=
  ⟨.hardware, [], self.level, []⟩

instance : WscdPlugin FixedKidPlugin Unit where
  generateKey _ := generateKey
  sign _ data _ self env := (.ok ⟨data⟩, self, env)
  listKeys self env := (.ok (self.held.map self.keyInfo), self, env)
  attestationChain _ self env := (.ok none, self, env)
  deleteKey := deleteKey
  exportPublicKey _ self env := (.ok .null, self, env)
  supportsImport _ _ := true
  importKey _ := importKey
  securityProperties _ self env := (.ok self.securityProperties, env)
  lifecycleStatus _ self env := unsupported self.id "lifecycle_status" self env
  registerLifecycle _ self env := unsupported self.id "register_lifecycle" self env
  activateLifecycle _ self env := unsupported self.id "activate_lifecycle" self env
  rotateLifecycle _ self env := unsupported self.id "rotate_lifecycle" self env
  destroyLifecycle _ self env := unsupported self.id "destroy_lifecycle" self env

/-- The keys the backend holds. -/
def inventory (self : FixedKidPlugin) : Finset KeyId := self.held.toFinset

end FixedKidPlugin

/-- Plugin `a` holds the key `same`, bound to it; `b` is about to make a key of that kid. -/
def collisionSys : Sys FixedKidPlugin Unit where
  manager :=
    (((WscdManager.new ⟨"a", ∅, ∅⟩).registerPlugin
      ⟨"a", ⟨"a", ⟨"same"⟩, .unattested, [⟨"same"⟩]⟩⟩).registerPlugin
      ⟨"b", ⟨"b", ⟨"same"⟩, .attestedDedicatedHardware, []⟩⟩).bind ⟨"same"⟩ "a"
  env := ()
  calls := []

end Wscd
