import KeyChange.Proofs.KeyValue
import KeyChange.Proofs.Signing

namespace KeyChange

/-- The one fault of a text that is no key, by what the fault depends on. -/
def Secret.faultOf (count : Nat) (isHex : Prop) [Decidable isHex] (outOfRange : KeyFault) : KeyFault :=
  if count = 64 then if isHex then outOfRange else .notHex else .digitCount count

theorem Secret.eq_faultOf {s : String} {inRange : Prop} {outOfRange fault : KeyFault}
    (h : FirstUnmet (conditions s ++ [(inRange, outOfRange)]) fault) :
    fault = faultOf (count s) (IsHex s) outOfRange := by
  unfold faultOf
  rcases h with ⟨hcount, rfl⟩ | ⟨hcount, ⟨hhex, rfl⟩ | ⟨hhex, ⟨-, rfl⟩ | ⟨-, hnone⟩⟩⟩
  · rw [if_neg hcount]
  · rw [if_pos hcount, if_neg hhex]
  · rw [if_pos hcount, if_pos hhex]
  · exact hnone.elim

/-- Other numbers of digits than 64 that are the same, or 64 digits that fail the same check. -/
def Secret.FailAlike (s s' : String) : Prop :=
  count s = count s' ∧ count s ≠ 64 ∨ (count s = 64 ∧ count s' = 64) ∧ (IsHex s ↔ IsHex s')

namespace Owner.Kind

def Refuses : Kind → String → KeyFault → Prop
  | .ethereum, s, fault => Ethereum.Key.parse s = .error fault
  | .starknet, s, fault => Starknet.Key.parse s = .error fault

def outOfRange : Kind → KeyFault
  | .ethereum => .notEthereumKey
  | .starknet => .notStarknetKey

theorem Refuses.eq_faultOf {kind : Kind} {s : String} {fault : KeyFault} (h : kind.Refuses s fault) :
    fault = Secret.faultOf (Secret.count s) (Secret.IsHex s) kind.outOfRange := by
  cases kind with
  | ethereum => exact Secret.eq_faultOf ((Ethereum.Key.parse_reports s fault).mp h)
  | starknet => exact Secret.eq_faultOf ((Starknet.Key.parse_reports s fault).mp h)

theorem faultOf_eq_iff (kind : Kind) (m n : Nat) (p q : Prop) [Decidable p] [Decidable q] :
    Secret.faultOf m p kind.outOfRange = Secret.faultOf n q kind.outOfRange ↔
      m = n ∧ m ≠ 64 ∨ (m = 64 ∧ n = 64) ∧ (p ↔ q) := by
  unfold Secret.faultOf
  cases kind with
  | ethereum => grind [outOfRange]
  | starknet => grind [outOfRange]

/-- The fault is decided by how the text fails, and tells no more. -/
theorem Refuses.eq_iff {kind : Kind} {s s' : String} {fault fault' : KeyFault}
    (h : kind.Refuses s fault) (h' : kind.Refuses s' fault') :
    fault = fault' ↔ Secret.FailAlike s s' := by
  rw [h.eq_faultOf, h'.eq_faultOf]
  exact kind.faultOf_eq_iff _ _ _ _

end Owner.Kind

inductive KeyReader
  | ethereum
  | starknet
  | rollup
  | signer (chain : Owner.Chain)

namespace KeyReader

variable {r : KeyReader} {s s' : String} {e e' : Error} {fault : KeyFault}

def kind : KeyReader → Owner.Kind
  | .ethereum => .ethereum
  | .starknet => .starknet
  | .rollup => .ethereum
  | .signer chain => chain.kind

def run : KeyReader → String → Except Error Unit
  | .ethereum, s => ((Ethereum.Key.parse s).mapError .key).map fun _ => ()
  | .starknet, s => ((Starknet.Key.parse s).mapError .key).map fun _ => ()
  | .rollup, s => (Rollup.Key.ofEthereumText s).map fun _ => ()
  | .signer chain, s => (Signer.new s chain).map fun _ => ()

/-- What is looked at before the text passes. -/
def Ready : KeyReader → Prop
  | .signer chain => chain.validate = .ok ()
  | _ => True

/-- Making fails with the error, and it is the text that is refused. -/
structure FailsAtKey (r : KeyReader) (s : String) (e : Error) : Prop where
  run_eq : r.run s = .error e
  ready : r.Ready
  refuses : ∃ fault, r.kind.Refuses s fault

theorem run_eq_of_refuses (ready : r.Ready) (h : r.kind.Refuses s fault) :
    r.run s = .error (.key fault) := by
  cases r with
  | ethereum =>
    have hkey : Ethereum.Key.parse s = .error fault := h
    rw [run, hkey]
    rfl
  | starknet =>
    have hkey : Starknet.Key.parse s = .error fault := h
    rw [run, hkey]
    rfl
  | rollup =>
    have hkey : Ethereum.Key.parse s = .error fault := h
    rw [run, Rollup.Key.ofEthereumText_eq_bind, hkey, mapError_error_bind]
    rfl
  | signer chain =>
    cases chain with
    | ethereum =>
      have hkey : Ethereum.Key.parse s = .error fault := h
      rw [run, Signer.new_ethereum, hkey, mapError_error_bind]
      rfl
    | starknet chainId address =>
      have hkey : Starknet.Key.parse s = .error fault := h
      rw [run, Signer.new_starknet ready, hkey, mapError_error_bind]
      rfl

theorem failsAtKey_iff : r.FailsAtKey s e ↔
    r.Ready ∧ ∃ fault, r.kind.Refuses s fault ∧ e = .key fault := by
  constructor
  · rintro ⟨hrun, ready, fault, h⟩
    have hkey := run_eq_of_refuses ready h
    rw [hrun] at hkey
    exact ⟨ready, fault, h, Except.error.inj hkey⟩
  · rintro ⟨ready, fault, h, rfl⟩
    exact ⟨run_eq_of_refuses ready h, ready, fault, h⟩

theorem FailsAtKey.eq_faultOf (h : r.FailsAtKey s e) :
    e = .key (Secret.faultOf (Secret.count s) (Secret.IsHex s) r.kind.outOfRange) := by
  obtain ⟨-, fault, hrefuses, rfl⟩ := failsAtKey_iff.mp h
  rw [hrefuses.eq_faultOf]

theorem FailsAtKey.eq_iff (h : r.FailsAtKey s e) (h' : r.FailsAtKey s' e') :
    e = e' ↔ Secret.FailAlike s s' := by
  obtain ⟨-, fault, hrefuses, rfl⟩ := failsAtKey_iff.mp h
  obtain ⟨-, fault', hrefuses', rfl⟩ := failsAtKey_iff.mp h'
  rw [Error.key.injEq]
  exact hrefuses.eq_iff hrefuses'

end KeyReader

theorem OwnerKey.describe_eq {x y : OwnerKey} (h : x.identity = y.identity) :
    x.describe = y.describe := by
  cases x with
  | ethereum key =>
    cases y with
    | ethereum key' =>
      have haddress : key.address = key'.address := Owner.Identity.ethereum.inj h
      unfold describe Ethereum.Key.describe
      dsimp only
      rw [haddress]
    | starknet => cases h
  | starknet key =>
    cases y with
    | ethereum => cases h
    | starknet =>
      unfold describe Starknet.Key.describe
      dsimp only

theorem Signer.describe_eq {a b : Signer} (hpublicKey : a.publicKey = b.publicKey)
    (hidentity : a.identity = b.identity) (hchain : a.chain = b.chain) :
    a.describe = b.describe := by
  have hrollup : a.rollup.describe = b.rollup.describe := by
    have hkey : a.rollup.publicKey = b.rollup.publicKey := hpublicKey
    unfold Rollup.Key.describe
    rw [hkey]
  unfold Signer.describe
  rw [hrollup, OwnerKey.describe_eq hidentity, hchain]

/-- The error for a text that is no key depends on the number of its digits and on the check that they
fail, and the text of a signer on its public key, its identity and its chain. -/
theorem secrets_do_not_show :
    (∀ (r : KeyReader) (s : String) (e : Error), r.FailsAtKey s e →
      e = .key (Secret.faultOf (Secret.count s) (Secret.IsHex s) r.kind.outOfRange)) ∧
    (∀ (r : KeyReader) (s s' : String) (e e' : Error), r.FailsAtKey s e → r.FailsAtKey s' e' →
      (e = e' ↔ Secret.FailAlike s s')) ∧
    ∀ a b : Signer, a.publicKey = b.publicKey → a.identity = b.identity → a.chain = b.chain →
      a.describe = b.describe := by
  refine ⟨?_, ?_, ?_⟩
  · intro r s e h
    exact h.eq_faultOf
  · intro r s s' e e' h h'
    exact h.eq_iff h'
  · intro a b
    exact Signer.describe_eq

theorem secrets_do_not_show_of_examples :
    let r := KeyReader.signer Owner.Chain.exampleStarknet
    let repeated := fun c => String.ofList (List.replicate 64 c)
    let other : Signer := ⟨Signer.exampleSigner.rollup, .ethereum ⟨2, Bytes.zero 20⟩⟩
    (∃ e, r.FailsAtKey "0x12" e ∧ r.FailsAtKey "zz" e ∧ Secret.FailAlike "0x12" "zz") ∧
    (∃ e, r.FailsAtKey (repeated 'g') e ∧ r.FailsAtKey (repeated 'z') e ∧
      Secret.FailAlike (repeated 'g') (repeated 'z')) ∧
    (∃ e, r.FailsAtKey (repeated '0') e ∧ r.FailsAtKey (repeated 'f') e ∧
      Secret.FailAlike (repeated '0') (repeated 'f')) ∧
    Signer.exampleSigner.describe = other.describe := by
  intro r repeated other
  have fails {s : String} {fault : KeyFault}
      (h : (Starknet.Key.parse s).map (·.secret) = .error fault) : r.FailsAtKey s (.key fault) :=
    KeyReader.failsAtKey_iff.mpr
      ⟨Owner.Chain.validate_exampleStarknet, fault, map_eq_error_iff.mp h, rfl⟩
  have agree (s s' : String) (fault : KeyFault)
      (h : (Starknet.Key.parse s).map (·.secret) = .error fault)
      (h' : (Starknet.Key.parse s').map (·.secret) = .error fault) :
      ∃ e, r.FailsAtKey s e ∧ r.FailsAtKey s' e ∧ Secret.FailAlike s s' :=
    ⟨_, fails h, fails h', (secrets_do_not_show.2.1 r s s' _ _ (fails h) (fails h')).mp rfl⟩
  refine ⟨?_, ?_, ?_, secrets_do_not_show.2.2 _ _ rfl rfl rfl⟩
  · exact agree _ _ (.digitCount 2) (by decide) (by decide)
  · exact agree _ _ .notHex (by decide +kernel) (by decide +kernel)
  · exact agree _ _ .notStarknetKey (by decide +kernel) (by decide +kernel)

end KeyChange
