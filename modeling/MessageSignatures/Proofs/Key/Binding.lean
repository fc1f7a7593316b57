import MessageSignatures.Key.Private
import MessageSignatures.Proofs.Except
import MessageSignatures.Proofs.Key.Document

/-!
# What key material is bound to

Whoever loads a key asks for an algorithm, but the material has the last word: its algorithm
identifier allows one algorithm, or the two of RSA (`AlgorithmId.Allows`).

* **Keys in the material.** `PrivateKeyInfo.Holds` and `PublicKeyInfo.Holds` tell the keys in a
  piece of key information without asking for an algorithm. What is loaded for an algorithm are
  those of them that have it (`PrivateKey.ofInfo_eq_ok_iff`, `PublicKey.ofInfo_eq_ok_iff`), so every
  check of the two readers has its place in one of these statements.
* **Binding.** `Bound` says of one piece of material what it gives for all the algorithms that can
  be asked for. Documents and texts are bound since the information in them is (`Bound.of_holds`).

`bound_of_material` puts this together. A document holds a private key or a public one, never both,
so no way around the binding leads through the other reader.
-/

namespace MessageSignatures

/-! ### Object identifiers -/

/-- **Algorithms of RSA.** The two that one key serves. -/
def Algorithm.IsRsa (a : Algorithm) : Prop :=
  a = .rsaPkcs1Sha256 ∨ a = .rsaPssSha512

instance : DecidablePred Algorithm.IsRsa :=
  fun a => inferInstanceAs (Decidable (a = .rsaPkcs1Sha256 ∨ a = .rsaPssSha512))

theorem Algorithm.isRsa_iff {a : Algorithm} :
    a.IsRsa ↔ ∃ padding : Rsa.Padding, padding.algorithm = a := by
  constructor
  · rintro (rfl | rfl)
    · exact ⟨.pkcs1, rfl⟩
    · exact ⟨.pss, rfl⟩
  · rintro ⟨padding, rfl⟩
    cases padding with
    | pkcs1 => exact .inl rfl
    | pss => exact .inr rfl

theorem Rsa.Padding.ofAlgorithm?_algorithm (padding : Rsa.Padding) :
    ofAlgorithm? padding.algorithm = some padding := by
  cases padding <;> rfl

/-- **Arcs of a kind.** The object identifier under which keys of a kind are exchanged. -/
def KeyKind.arcs : KeyKind → List Nat
  | rsa => [1, 2, 840, 113549, 1, 1, 1]
  | ec => [1, 2, 840, 10045, 2, 1]
  | ed25519 => [1, 3, 101, 112]

theorem KeyKind.arcs_injective : Function.Injective KeyKind.arcs := by
  intro k k' h
  cases k <;> cases k' <;> first | rfl | cases h

/-- **Arcs of a curve.** -/
def Ecdsa.Scheme.curveArcs : Ecdsa.Scheme → List Nat
  | p256 => [1, 2, 840, 10045, 3, 1, 7]
  | p384 => [1, 3, 132, 0, 34]

theorem Ecdsa.Scheme.not_isRsa (s : Ecdsa.Scheme) : ¬ s.algorithm.IsRsa := by
  cases s <;> rintro (h | h) <;> cases h

theorem Ecdsa.Scheme.curveArcs_injective : Function.Injective Ecdsa.Scheme.curveArcs := by
  intro s s' h
  cases s <;> cases s' <;> first | rfl | cases h

theorem curveScheme?_eq_some_iff {arcs : List Nat} {s : Ecdsa.Scheme} :
    curveScheme? arcs = some s ↔ arcs = s.curveArcs := by
  constructor
  · intro h
    unfold curveScheme? at h
    -- the curve is compared with one scheme after the other
    split at h
    · next harcs =>
      cases h
      exact harcs
    · split at h
      · next harcs =>
        cases h
        exact harcs
      · cases h
  · rintro rfl
    cases s <;> rfl

namespace AlgorithmId

variable {i : AlgorithmId} {a b : Algorithm} {k : KeyKind}

theorem kind?_eq_some_iff : i.kind? = some k ↔ i.arcs = k.arcs := by
  constructor
  · intro h
    unfold kind? at h
    -- the first of the three comparisons that holds gives the kind
    split at h
    · next harcs =>
      cases h
      exact harcs
    · split at h
      · next harcs =>
        cases h
        exact harcs
      · split at h
        · next harcs =>
          cases h
          exact harcs
        · cases h
  · intro h
    unfold kind?
    rw [h]
    cases k <;> rfl

/-- **Allowed algorithms.** Object identifiers tell them: that of the kind of key and, where there
are several curves, that of the curve. -/
inductive Allows (i : AlgorithmId) : Algorithm → Prop
  | rsa (padding : Rsa.Padding) (hkind : i.arcs = KeyKind.rsa.arcs) : Allows i padding.algorithm
  | ecdsa (scheme : Ecdsa.Scheme) (hkind : i.arcs = KeyKind.ec.arcs)
      (hcurve : i.parameterArcs? = some scheme.curveArcs) : Allows i scheme.algorithm
  | ed25519 (hkind : i.arcs = KeyKind.ed25519.arcs) : Allows i .ed25519

/-- A shared key has no algorithm identifier. -/
theorem Allows.ne_hmacSha256 (h : i.Allows a) : a ≠ .hmacSha256 := by
  cases h with
  | rsa padding _ => cases padding <;> nofun
  | ecdsa scheme _ _ => cases scheme <;> nofun
  | ed25519 _ => nofun

/-- **One algorithm** is allowed, or the two of RSA. -/
theorem Allows.eq_or_isRsa (ha : i.Allows a) (hb : i.Allows b) : a = b ∨ a.IsRsa ∧ b.IsRsa := by
  -- the two rules are about one kind of key, since the arcs are those of one kind only
  have hkinds {k k' : KeyKind} (hk : i.arcs = k.arcs) (hk' : i.arcs = k'.arcs) : k = k' :=
    KeyKind.arcs_injective (hk.symm.trans hk')
  cases ha with
  | rsa padding hkind =>
    -- the same kind on both sides: paddings may differ, the scheme of a curve may not
    cases hb with
    | rsa padding' _ =>
      exact .inr ⟨Algorithm.isRsa_iff.2 ⟨padding, rfl⟩, Algorithm.isRsa_iff.2 ⟨padding', rfl⟩⟩
    | ecdsa _ hkind' _ => cases hkinds hkind hkind'
    | ed25519 hkind' => cases hkinds hkind hkind'
  | ecdsa scheme hkind hcurve =>
    cases hb with
    | rsa _ hkind' => cases hkinds hkind hkind'
    | ecdsa scheme' _ hcurve' =>
      obtain rfl : scheme = scheme' :=
        Ecdsa.Scheme.curveArcs_injective (Option.some.inj (hcurve.symm.trans hcurve'))
      exact .inl rfl
    | ed25519 hkind' => cases hkinds hkind hkind'
  | ed25519 hkind =>
    cases hb with
    | rsa _ hkind' => cases hkinds hkind hkind'
    | ecdsa _ hkind' _ => cases hkinds hkind hkind'
    | ed25519 _ => exact .inl rfl

end AlgorithmId

/-! ### Bound material -/

/-- **Bound material.** `load` reads one piece of material for the algorithm that is asked for. The
material holds keys by itself, and the identifier in it allows some algorithms. -/
structure Bound {ε Key : Type} (algOf : Key → Algorithm) (holds : Key → Prop)
    (allowed : Algorithm → Prop) (load : Algorithm → Except ε Key) : Prop where
  /-- A key is loaded for the algorithm that it has, if the material holds it, and for no other
  one. -/
  load_iff : ∀ {a key}, load a = .ok key ↔ holds key ∧ algOf key = a
  /-- The identifier allows that algorithm. -/
  allowed : ∀ {a key}, load a = .ok key → allowed a
  /-- No key is loaded for the algorithm of shared keys. -/
  ne_hmacSha256 : ∀ {a key}, load a = .ok key → a ≠ .hmacSha256
  /-- If keys are loaded for two algorithms, these are the two of RSA. -/
  eq_or_isRsa : ∀ {a b key key'}, load a = .ok key → load b = .ok key' → a = b ∨ a.IsRsa ∧ b.IsRsa
  /-- If a key is loaded for one of the algorithms of RSA, one is loaded for the other as well. -/
  together : ∀ {a b key}, load a = .ok key → a.IsRsa → b.IsRsa → ∃ key', load b = .ok key'

namespace Bound

variable {ε ε' Key Material : Type} {algOf : Key → Algorithm} {load : Algorithm → Except ε Key}

/-- **Keys in the material.** Material is bound if those keys in it are loaded that have the
algorithm that is asked for. -/
theorem of_holds {i : AlgorithmId} {holds : Key → Prop}
    (hload : ∀ a key, load a = .ok key ↔ holds key ∧ algOf key = a)
    (hallows : ∀ key, holds key → i.Allows (algOf key))
    (hrsa : ∀ key, holds key → (algOf key).IsRsa → ∀ b : Algorithm, b.IsRsa →
      ∃ key', holds key' ∧ algOf key' = b) : Bound algOf holds i.Allows load := by
  -- a key that is loaded is one that stands there, and its algorithm is allowed
  have hallowed {a : Algorithm} {key : Key} (h : load a = .ok key) : i.Allows a := by
    obtain ⟨hholds, rfl⟩ := (hload a key).1 h
    exact hallows key hholds
  refine ⟨hload _ _, hallowed, fun h => (hallowed h).ne_hmacSha256,
    fun h h' => (hallowed h).eq_or_isRsa (hallowed h'), ?_⟩
  intro a b key h ha hb
  obtain ⟨hholds, rfl⟩ := (hload a key).1 h
  -- a key for the other padding stands there too, so it is loaded as well
  obtain ⟨key', hkey'⟩ := hrsa key hholds ha b hb
  exact ⟨key', (hload b key').2 hkey'⟩

/-- **Wrapped material** is bound as the material that is found in it. What is found there does not
depend on the algorithm. -/
theorem of_found {Found : Material → Prop} {holds : Material → Key → Prop}
    {allowed : Material → Algorithm → Prop} {loadFound : Material → Algorithm → Except ε' Key}
    (hunique : ∀ {m m'}, Found m → Found m' → m = m')
    (h : ∀ m, Bound algOf (holds m) (allowed m) (loadFound m))
    (hload : ∀ a key, load a = .ok key ↔ ∃ m, Found m ∧ loadFound m a = .ok key) :
    Bound algOf (fun key => ∃ m, Found m ∧ holds m key)
      (fun a => ∃ m, Found m ∧ allowed m a) load where
  load_iff := by
    -- the material is found once, and what is known of it carries over
    intro a key
    rw [hload]
    constructor
    · rintro ⟨m, hfound, hm⟩
      obtain ⟨hholds, halg⟩ := (h m).load_iff.1 hm
      exact ⟨⟨m, hfound, hholds⟩, halg⟩
    · rintro ⟨⟨m, hfound, hholds⟩, halg⟩
      exact ⟨m, hfound, (h m).load_iff.2 ⟨hholds, halg⟩⟩
  allowed hkey := by
    obtain ⟨m, hfound, hm⟩ := (hload _ _).1 hkey
    exact ⟨m, hfound, (h m).allowed hm⟩
  ne_hmacSha256 hkey := by
    obtain ⟨m, -, hm⟩ := (hload _ _).1 hkey
    exact (h m).ne_hmacSha256 hm
  eq_or_isRsa hkey hkey' := by
    obtain ⟨m, hfound, hm⟩ := (hload _ _).1 hkey
    obtain ⟨m', hfound', hm'⟩ := (hload _ _).1 hkey'
    -- both keys come of the same material
    obtain rfl : m = m' := hunique hfound hfound'
    exact (h m).eq_or_isRsa hm hm'
  together hkey ha hb := by
    obtain ⟨m, hfound, hm⟩ := (hload _ _).1 hkey
    obtain ⟨key', hkey'⟩ := (h m).together hm ha hb
    exact ⟨key', (hload _ _).2 ⟨m, hfound, hkey'⟩⟩

end Bound

/-! ### Steps of reading -/

namespace KeyFault

variable {α : Type} {fault : KeyFault}

theorem unlessSome_eq_ok {o : Option α} {a : α} : fault.unlessSome o = .ok a ↔ o = some a := by
  cases o with
  | none => exact ⟨nofun, nofun⟩
  | some b =>
    exact ⟨fun h => congrArg some (Except.ok.inj h),
      fun h => congrArg Except.ok (Option.some.inj h)⟩

theorem unlessBound_eq_ok {found requested : Algorithm} {u : Unit} :
    unlessBound found requested = .ok u ↔ found = requested := by
  unfold unlessBound
  by_cases h : requested = found
  · rw [if_pos h]
    exact ⟨fun _ => h.symm, fun _ => rfl⟩
  · rw [if_neg h]
    exact ⟨nofun, fun h' => absurd h'.symm h⟩

end KeyFault

section Steps

open Fallible (bind_eq_ok)
open KeyFault (unlessSome_eq_ok unlessBound_eq_ok)

variable {Material Key : Type} {alg : Algorithm} {key : Key}

/-- **RSA.** The numbers are read first, then the algorithm selects the padding. -/
theorem rsa_eq_ok_iff {numbers? : Option Material} {make : Rsa.Padding → Material → Key} :
    (do
      let numbers ← KeyFault.undecodable.unlessSome numbers?
      let padding ← (KeyFault.rsaFor alg).unlessSome (Rsa.Padding.ofAlgorithm? alg)
      return make padding numbers) = .ok key
      ↔ ∃ numbers padding, numbers? = some numbers ∧ padding.algorithm = alg
        ∧ key = make padding numbers := by
  constructor
  · intro h
    -- each step has gone through: first the numbers, then the padding of the algorithm
    obtain ⟨numbers, hnumbers, h⟩ := bind_eq_ok.1 h
    obtain ⟨padding, hpadding, h⟩ := bind_eq_ok.1 h
    cases h
    exact ⟨numbers, padding, unlessSome_eq_ok.1 hnumbers,
      Rsa.Padding.algorithm_of_ofAlgorithm? (unlessSome_eq_ok.1 hpadding), rfl⟩
  · rintro ⟨numbers, padding, hnumbers, rfl, rfl⟩
    refine bind_eq_ok.2 ⟨numbers, unlessSome_eq_ok.2 hnumbers, bind_eq_ok.2 ⟨padding, ?_, rfl⟩⟩
    exact unlessSome_eq_ok.2 padding.ofAlgorithm?_algorithm

/-- **Elliptic curves.** The curve selects the scheme, which has to be the one that is asked for
before the octets are read as a key of that curve. -/
theorem ecdsa_eq_ok_iff {fault : KeyFault} {curve? : Option (List Nat)}
    {octets? : Option (List UInt8)}
    {read : Ecdsa.Scheme → List UInt8 → Option Material} (make : Ecdsa.Scheme → Material → Key) :
    (do
      let curve ← KeyFault.undecodable.unlessSome curve?
      let octets ← fault.unlessSome octets?
      let scheme ← KeyFault.unsupportedCurve.unlessSome (curveScheme? curve)
      KeyFault.unlessBound scheme.algorithm alg
      let material ← KeyFault.undecodable.unlessSome (read scheme octets)
      return make scheme material) = .ok key
      ↔ ∃ scheme octets material, curve? = some scheme.curveArcs ∧ octets? = some octets
        ∧ read scheme octets = some material ∧ scheme.algorithm = alg
          ∧ key = make scheme material := by
  constructor
  · -- the steps in their order; only the scheme ties the curve to the algorithm
    intro h
    obtain ⟨curve, hcurve, h⟩ := bind_eq_ok.1 h
    obtain ⟨octets, hoctets, h⟩ := bind_eq_ok.1 h
    obtain ⟨scheme, hscheme, h⟩ := bind_eq_ok.1 h
    obtain ⟨u, hbound, h⟩ := bind_eq_ok.1 h
    obtain ⟨material, hmaterial, h⟩ := bind_eq_ok.1 h
    cases h
    obtain rfl : curve = scheme.curveArcs := curveScheme?_eq_some_iff.1 (unlessSome_eq_ok.1 hscheme)
    -- the curve that was written is the one of the scheme
    exact ⟨scheme, octets, material, unlessSome_eq_ok.1 hcurve, unlessSome_eq_ok.1 hoctets,
      unlessSome_eq_ok.1 hmaterial, unlessBound_eq_ok.1 hbound, rfl⟩
  · rintro ⟨scheme, octets, material, hcurve, hoctets, hmaterial, rfl, rfl⟩
    refine bind_eq_ok.2 ⟨_, unlessSome_eq_ok.2 hcurve,
      bind_eq_ok.2 ⟨octets, unlessSome_eq_ok.2 hoctets,
      bind_eq_ok.2 ⟨scheme, unlessSome_eq_ok.2 (curveScheme?_eq_some_iff.2 rfl), ?_⟩⟩⟩
    exact bind_eq_ok.2 ⟨(), unlessBound_eq_ok.2 rfl,
      bind_eq_ok.2 ⟨material, unlessSome_eq_ok.2 hmaterial, rfl⟩⟩

/-- **A text** is decoded, and its label compared, before the document in it is loaded. -/
theorem text_eq_ok_iff {ε : Type} {e e' : ε} {label : String}
    {decoded? : Option (String × List UInt8)} {load : List UInt8 → Except ε Key} :
    (match decoded? with
      | none => Except.error e
      | some (found, bs) => if found = label then load bs else Except.error e') = .ok key
      ↔ ∃ bs, decoded? = some (label, bs) ∧ load bs = .ok key := by
  cases decoded? with
  | none => exact ⟨nofun, nofun⟩
  | some decoded =>
    -- the label is compared before anything is loaded
    obtain ⟨found, bs⟩ := decoded
    by_cases hlabel : found = label <;> simp [hlabel]

end Steps

/-! ### Private keys -/

/-- **Private keys** in the information. RSA material holds one for each padding. -/
inductive PrivateKeyInfo.Holds (info : PrivateKeyInfo) : PrivateKey → Prop
  | rsa {numbers : Rsa.PrivateKey} (padding : Rsa.Padding)
    (hkind : info.algorithm.arcs = KeyKind.rsa.arcs)
      (hnumbers : info.rsaPrivateKey? = some numbers) : Holds info (.rsa padding numbers)
  | ecdsa {octets : List UInt8} {scalar : Nat} (scheme : Ecdsa.Scheme)
      (hkind : info.algorithm.arcs = KeyKind.ec.arcs)
      (hcurve : info.algorithm.parameterArcs? = some scheme.curveArcs)
      (hoctets : info.ecScalar? = some octets)
      (hscalar : PrivateKey.scalarOf? scheme.curve octets = some scalar) :
      Holds info (.ecdsa scheme scalar)
  | ed25519 {seed : List UInt8} (hkind : info.algorithm.arcs = KeyKind.ed25519.arcs)
      (hseed : PrivateKey.seedOf info.key = .ok seed) : Holds info (.ed25519 seed)

namespace PrivateKeyInfo

variable {info : PrivateKeyInfo} {key : PrivateKey}

theorem Holds.allows (h : info.Holds key) : info.algorithm.Allows key.alg := by
  cases h with
  | rsa padding hkind _ => exact .rsa padding hkind
  | ecdsa scheme hkind hcurve _ _ => exact .ecdsa scheme hkind hcurve
  | ed25519 hkind _ => exact .ed25519 hkind

/-- The numbers of RSA do not tell the padding. -/
theorem Holds.exists_of_isRsa (h : info.Holds key) (hkey : key.alg.IsRsa) {b : Algorithm}
    (hb : b.IsRsa) :
    ∃ key', info.Holds key' ∧ key'.alg = b := by
  obtain ⟨padding', rfl⟩ := Algorithm.isRsa_iff.1 hb
  cases h with
  | rsa padding hkind hnumbers => exact ⟨.rsa padding' _, .rsa padding' hkind hnumbers, rfl⟩
  | ecdsa scheme _ _ _ _ => exact absurd hkey scheme.not_isRsa
  | ed25519 _ _ => rcases hkey with hkey | hkey <;> cases hkey

end PrivateKeyInfo

namespace PrivateKey

variable {alg : Algorithm} {info : PrivateKeyInfo} {key : PrivateKey}

/-- **Loading a private key** for an algorithm gives the key in the information that has it. -/
theorem ofInfo_eq_ok_iff : ofInfo alg info = .ok key ↔ info.Holds key ∧ key.alg = alg := by
  constructor
  · intro h
    unfold ofInfo at h
    -- one case for each kind, and one for none
    split at h
    · cases h
    · next hkind =>
      obtain ⟨numbers, padding, hnumbers, halg, rfl⟩ := rsa_eq_ok_iff.1 h
      exact ⟨.rsa padding (AlgorithmId.kind?_eq_some_iff.1 hkind) hnumbers, halg⟩
    · next hkind =>
      obtain ⟨scheme, octets, scalar, hcurve, hoctets, hscalar, halg, rfl⟩ :=
        (ecdsa_eq_ok_iff ecdsa).1 h
      exact ⟨.ecdsa scheme (AlgorithmId.kind?_eq_some_iff.1 hkind) hcurve hoctets hscalar, halg⟩
    · next hkind =>
      obtain ⟨u, hbound, h⟩ := Fallible.bind_eq_ok.1 h
      obtain ⟨seed, hseed, h⟩ := Fallible.bind_eq_ok.1 h
      cases h
      exact ⟨.ed25519 (AlgorithmId.kind?_eq_some_iff.1 hkind) hseed,
        KeyFault.unlessBound_eq_ok.1 hbound⟩
  · rintro ⟨h, rfl⟩
    unfold ofInfo
    -- a key that stands there names its kind, which is the one that is looked up
    cases h with
    | rsa padding hkind hnumbers =>
      rw [AlgorithmId.kind?_eq_some_iff.2 hkind]
      exact rsa_eq_ok_iff.2 ⟨_, padding, hnumbers, rfl, rfl⟩
    | ecdsa scheme hkind hcurve hoctets hscalar =>
      rw [AlgorithmId.kind?_eq_some_iff.2 hkind]
      exact (ecdsa_eq_ok_iff ecdsa).2 ⟨scheme, _, _, hcurve, hoctets, hscalar, rfl, rfl⟩
    | ed25519 hkind hseed =>
      rw [AlgorithmId.kind?_eq_some_iff.2 hkind]
      exact Fallible.bind_eq_ok.2 ⟨(), KeyFault.unlessBound_eq_ok.2 rfl,
        Fallible.bind_eq_ok.2 ⟨_, hseed, rfl⟩⟩

end PrivateKey

/-! ### Public keys -/

/-- **Public keys** in the information. -/
inductive PublicKeyInfo.Holds (info : PublicKeyInfo) : PublicKey → Prop
  | rsa {numbers : Rsa.PublicKey} (padding : Rsa.Padding)
    (hkind : info.algorithm.arcs = KeyKind.rsa.arcs)
      (hnumbers : info.rsaPublicKey? = some numbers) : Holds info (.rsa padding numbers)
  | ecdsa {octets : List UInt8} {x y : Nat} (scheme : Ecdsa.Scheme)
      (hkind : info.algorithm.arcs = KeyKind.ec.arcs)
      (hcurve : info.algorithm.parameterArcs? = some scheme.curveArcs)
      (hoctets : info.key.whole? = some octets)
      (hpoint : scheme.curve.decodePoint octets = some (x, y)) : Holds info (.ecdsa scheme x y)
  | ed25519 {octets : List UInt8} (hkind : info.algorithm.arcs = KeyKind.ed25519.arcs)
      (hoctets : info.key.whole? = some octets)
      (hlength : octets.length = PublicKey.ed25519Octets) :
      Holds info (.ed25519 octets)

namespace PublicKeyInfo

variable {info : PublicKeyInfo} {key : PublicKey}

theorem Holds.allows (h : info.Holds key) : info.algorithm.Allows key.alg := by
  cases h with
  | rsa padding hkind _ => exact .rsa padding hkind
  | ecdsa scheme hkind hcurve _ _ => exact .ecdsa scheme hkind hcurve
  | ed25519 hkind _ _ => exact .ed25519 hkind

theorem Holds.exists_of_isRsa (h : info.Holds key) (hkey : key.alg.IsRsa) {b : Algorithm}
    (hb : b.IsRsa) :
    ∃ key', info.Holds key' ∧ key'.alg = b := by
  obtain ⟨padding', rfl⟩ := Algorithm.isRsa_iff.1 hb
  cases h with
  | rsa padding hkind hnumbers => exact ⟨.rsa padding' _, .rsa padding' hkind hnumbers, rfl⟩
  | ecdsa scheme _ _ _ _ => exact absurd hkey scheme.not_isRsa
  | ed25519 _ _ _ => rcases hkey with hkey | hkey <;> cases hkey

end PublicKeyInfo

namespace PublicKey

variable {alg : Algorithm} {info : PublicKeyInfo} {key : PublicKey}

/-- **Loading a public key** for an algorithm gives the key in the information that has it. -/
theorem ofInfo_eq_ok_iff : ofInfo alg info = .ok key ↔ info.Holds key ∧ key.alg = alg := by
  constructor
  · intro h
    unfold ofInfo at h
    -- the kinds as for private keys; a point is read for a curve, and Ed25519 octets are counted
    split at h
    · cases h
    · next hkind =>
      obtain ⟨numbers, padding, hnumbers, halg, rfl⟩ := rsa_eq_ok_iff.1 h
      exact ⟨.rsa padding (AlgorithmId.kind?_eq_some_iff.1 hkind) hnumbers, halg⟩
    · next hkind =>
      obtain ⟨scheme, octets, ⟨x, y⟩, hcurve, hoctets, hpoint, halg, rfl⟩ :=
        (ecdsa_eq_ok_iff fun scheme (point : Nat × Nat) => ecdsa scheme point.1 point.2).1 h
      exact ⟨.ecdsa scheme (AlgorithmId.kind?_eq_some_iff.1 hkind) hcurve hoctets hpoint, halg⟩
    · next hkind =>
      obtain ⟨u, hbound, h⟩ := Fallible.bind_eq_ok.1 h
      obtain ⟨octets, hoctets, h⟩ := Fallible.bind_eq_ok.1 h
      obtain ⟨hlength, h⟩ := Fallible.guard_eq_ok.1 h
      cases h
      exact ⟨.ed25519 (AlgorithmId.kind?_eq_some_iff.1 hkind) (KeyFault.unlessSome_eq_ok.1 hoctets)
        (not_not.1 hlength), KeyFault.unlessBound_eq_ok.1 hbound⟩
  · rintro ⟨h, rfl⟩
    unfold ofInfo
    -- as for private keys
    cases h with
    | rsa padding hkind hnumbers =>
      rw [AlgorithmId.kind?_eq_some_iff.2 hkind]
      exact rsa_eq_ok_iff.2 ⟨_, padding, hnumbers, rfl, rfl⟩
    | ecdsa scheme hkind hcurve hoctets hpoint =>
      rw [AlgorithmId.kind?_eq_some_iff.2 hkind]
      exact (ecdsa_eq_ok_iff fun scheme (point : Nat × Nat) => ecdsa scheme point.1 point.2).2
        ⟨scheme, _, _, hcurve, hoctets, hpoint, rfl, rfl⟩
    | ed25519 hkind hoctets hlength =>
      rw [AlgorithmId.kind?_eq_some_iff.2 hkind]
      refine Fallible.bind_eq_ok.2 ⟨(), KeyFault.unlessBound_eq_ok.2 rfl,
        Fallible.bind_eq_ok.2 ⟨_, KeyFault.unlessSome_eq_ok.2 hoctets, ?_⟩⟩
      exact Fallible.guard_eq_ok.2 ⟨not_not.2 hlength, rfl⟩

end PublicKey

/-! ### Documents and texts -/

namespace PrivateKeyInfo

variable {bs : List UInt8} {info : PrivateKeyInfo}

/-- Private key information has three elements at least. -/
theorem exists_elements (h : ofDer bs = some info) :
    ∃ e es, Der.whole? bs = some e ∧ e.elementsOf? Der.Tag.sequence = some es ∧ 3 ≤ es.length := by
  unfold ofDer at h
  obtain ⟨e, he, h⟩ := Option.bind_eq_some_iff.1 h
  obtain ⟨es, hes, h⟩ := Option.bind_eq_some_iff.1 h
  split at h
  · exact ⟨e, _, he, hes, Nat.le_add_left 3 _⟩
  · cases h

end PrivateKeyInfo

namespace PublicKeyInfo

variable {bs : List UInt8} {info : PublicKeyInfo}

/-- Public key information has two elements. -/
theorem exists_elements (h : ofDer bs = some info) :
    ∃ e es, Der.whole? bs = some e ∧ e.elementsOf? Der.Tag.sequence = some es ∧ es.length = 2 := by
  unfold ofDer at h
  obtain ⟨e, he, h⟩ := Option.bind_eq_some_iff.1 h
  obtain ⟨es, hes, h⟩ := Option.bind_eq_some_iff.1 h
  split at h
  · exact ⟨e, _, he, hes, rfl⟩
  · cases h

/-- **No document** is both. -/
theorem ofDer_eq_none {info : PrivateKeyInfo} (h : PrivateKeyInfo.ofDer bs = some info) :
    ofDer bs = none := by
  cases hpublic : ofDer bs with
  | none => rfl
  | some info' =>
    -- a public key has two elements at its top, a private one three or more
    obtain ⟨e, es, he, hes, hlength⟩ := PrivateKeyInfo.exists_elements h
    obtain ⟨e', es', he', hes', hlength'⟩ := exists_elements hpublic
    obtain rfl : e = e' := Option.some.inj (he.symm.trans he')
    obtain rfl : es = es' := Option.some.inj (hes.symm.trans hes')
    omega

end PublicKeyInfo

namespace Pem

/-- A text has one document under a label at most. -/
theorem eq_of_decodeSequence {s label : String} {bs bs' : List UInt8}
    (h : decodeSequence s = some (label, bs))
    (h' : decodeSequence s = some (label, bs')) : bs = bs' :=
  (Prod.mk.inj (Option.some.inj (h.symm.trans h'))).2

end Pem

namespace PrivateKey

variable {a : Algorithm} {key : PrivateKey}

/-- **Keys in a document.** The private keys in the information that a document holds. -/
def StandsIn (key : PrivateKey) (bs : List UInt8) : Prop :=
  ∃ info, PrivateKeyInfo.ofDer bs = some info ∧ info.Holds key

/-- The algorithms that a document with private key information allows. -/
def Allowed (bs : List UInt8) (a : Algorithm) : Prop :=
  ∃ info, PrivateKeyInfo.ofDer bs = some info ∧ info.algorithm.Allows a

theorem ofDer_eq_ok_iff {bs : List UInt8} :
    ofDer a bs = .ok key ↔ ∃ info, PrivateKeyInfo.ofDer bs = some info
      ∧ ofInfo a info = .ok key := by
  unfold ofDer
  cases PrivateKeyInfo.ofDer bs with
  | none => exact ⟨nofun, nofun⟩
  | some info => simp only [Fallible.mapError_eq_ok, Option.some.injEq, exists_eq_left']

theorem ofPem_eq_ok_iff {s : String} :
    ofPem a s = .ok key ↔ ∃ bs, Pem.decodeSequence s = some (pemLabel, bs) ∧ ofDer a bs = .ok key :=
  text_eq_ok_iff

theorem bound_ofInfo (info : PrivateKeyInfo) :
    Bound PrivateKey.alg info.Holds info.algorithm.Allows (ofInfo · info) :=
  .of_holds (fun _ _ => ofInfo_eq_ok_iff) (fun _ => PrivateKeyInfo.Holds.allows)
    fun _ hholds hrsa _ hb => hholds.exists_of_isRsa hrsa hb

/-- **A document** with a private key is bound. -/
theorem bound_ofDer (bs : List UInt8) :
    Bound PrivateKey.alg (StandsIn · bs) (Allowed bs) (ofDer · bs) :=
  .of_found (fun h h' => Option.some.inj (h.symm.trans h')) bound_ofInfo fun _ _ => ofDer_eq_ok_iff

/-- **A text** with a private key is bound. -/
theorem bound_ofPem (s : String) :
    Bound PrivateKey.alg (fun key => ∃ bs, Pem.decodeSequence s = some (pemLabel, bs)
      ∧ key.StandsIn bs)
      (fun a => ∃ bs, Pem.decodeSequence s = some (pemLabel, bs) ∧ Allowed bs a) (ofPem · s) :=
  .of_found Pem.eq_of_decodeSequence bound_ofDer fun _ _ => ofPem_eq_ok_iff

end PrivateKey

namespace PublicKey

variable {a : Algorithm} {key : PublicKey}

/-- **Keys in a document.** The public keys in the information that a document holds. -/
def StandsIn (key : PublicKey) (bs : List UInt8) : Prop :=
  ∃ info, PublicKeyInfo.ofDer bs = some info ∧ info.Holds key

/-- The algorithms that a document with public key information allows. -/
def Allowed (bs : List UInt8) (a : Algorithm) : Prop :=
  ∃ info, PublicKeyInfo.ofDer bs = some info ∧ info.algorithm.Allows a

theorem ofDer_eq_ok_iff {bs : List UInt8} :
    ofDer a bs = .ok key ↔ ∃ info, PublicKeyInfo.ofDer bs = some info
      ∧ ofInfo a info = .ok key := by
  unfold ofDer
  cases PublicKeyInfo.ofDer bs with
  | none => exact ⟨nofun, nofun⟩
  | some info => simp only [Fallible.mapError_eq_ok, Option.some.injEq, exists_eq_left']

theorem ofPem_eq_ok_iff {s : String} :
    ofPem a s = .ok key ↔ ∃ bs, Pem.decodeSequence s = some (pemLabel, bs) ∧ ofDer a bs = .ok key :=
  text_eq_ok_iff

theorem bound_ofInfo (info : PublicKeyInfo) :
    Bound PublicKey.alg info.Holds info.algorithm.Allows (ofInfo · info) :=
  .of_holds (fun _ _ => ofInfo_eq_ok_iff) (fun _ => PublicKeyInfo.Holds.allows)
    fun _ hholds hrsa _ hb => hholds.exists_of_isRsa hrsa hb

/-- **A document** with a public key is bound. -/
theorem bound_ofDer (bs : List UInt8) :
    Bound PublicKey.alg (StandsIn · bs) (Allowed bs) (ofDer · bs) :=
  .of_found (fun h h' => Option.some.inj (h.symm.trans h')) bound_ofInfo fun _ _ => ofDer_eq_ok_iff

/-- **A text** with a public key is bound. -/
theorem bound_ofPem (s : String) :
    Bound PublicKey.alg (fun key => ∃ bs, Pem.decodeSequence s = some (pemLabel, bs)
      ∧ key.StandsIn bs)
      (fun a => ∃ bs, Pem.decodeSequence s = some (pemLabel, bs) ∧ Allowed bs a) (ofPem · s) :=
  .of_found Pem.eq_of_decodeSequence bound_ofDer fun _ _ => ofPem_eq_ok_iff

end PublicKey

/-! ### Binding -/

/-- **Key material is bound.** A key keeps its algorithm in all the forms in which it is used,
documents and texts are bound, and what holds a private key holds no public key. -/
theorem bound_of_material :
    (∀ key : PrivateKey, key.publicKey.alg = key.alg ∧ key.signingKey.alg = key.alg
        ∧ key.verifyingKey.alg = key.alg)
    ∧ (∀ key : PublicKey, key.verifyingKey.alg = key.alg)
    ∧ (∀ bs, Bound PrivateKey.alg (PrivateKey.StandsIn · bs) (PrivateKey.Allowed bs)
          (PrivateKey.ofDer · bs)
        ∧ Bound PublicKey.alg (PublicKey.StandsIn · bs) (PublicKey.Allowed bs)
          (PublicKey.ofDer · bs))
    ∧ (∀ s, Bound PrivateKey.alg
          (fun key => ∃ bs, Pem.decodeSequence s = some (PrivateKey.pemLabel, bs) ∧ key.StandsIn bs)
          (fun a => ∃ bs, Pem.decodeSequence s = some (PrivateKey.pemLabel, bs)
            ∧ PrivateKey.Allowed bs a)
          (PrivateKey.ofPem · s)
        ∧ Bound PublicKey.alg
          (fun key => ∃ bs, Pem.decodeSequence s = some (PublicKey.pemLabel, bs) ∧ key.StandsIn bs)
          (fun a => ∃ bs, Pem.decodeSequence s = some (PublicKey.pemLabel, bs)
            ∧ PublicKey.Allowed bs a)
          (PublicKey.ofPem · s))
    ∧ (∀ a b bs key key', PrivateKey.ofDer a bs = .ok key → PublicKey.ofDer b bs ≠ .ok key')
    ∧ (∀ a b s key key', PrivateKey.ofPem a s = .ok key → PublicKey.ofPem b s ≠ .ok key') := by
  refine ⟨fun key => ⟨key.alg_publicKey, rfl, key.alg_publicKey⟩, fun _ => rfl,
    fun bs => ⟨PrivateKey.bound_ofDer bs, PublicKey.bound_ofDer bs⟩,
    -- reading as both halves fails, since the elements of the documents are not the same
    fun s => ⟨PrivateKey.bound_ofPem s, PublicKey.bound_ofPem s⟩, ?_, ?_⟩
  · intro a b bs key key' hprivate hpublic
    obtain ⟨info, hinfo, -⟩ := PrivateKey.ofDer_eq_ok_iff.1 hprivate
    obtain ⟨info', hinfo', -⟩ := PublicKey.ofDer_eq_ok_iff.1 hpublic
    rw [PublicKeyInfo.ofDer_eq_none hinfo] at hinfo'
    cases hinfo'
  · intro a b s key key' hprivate hpublic
    obtain ⟨bs, hbs, -⟩ := PrivateKey.ofPem_eq_ok_iff.1 hprivate
    obtain ⟨bs', hbs', -⟩ := PublicKey.ofPem_eq_ok_iff.1 hpublic
    -- the labels of the two texts differ
    obtain ⟨hlabel, -⟩ := Prod.mk.inj (Option.some.inj (hbs.symm.trans hbs'))
    exact absurd hlabel (by decide)

namespace RsaDocument

/-- The numbers of a small key, with the modulus 33. -/
def numbers : List Der.Element :=
  [0, 33, 3, 7, 3, 11, 1, 7, 2].map fun n => ⟨Der.Tag.integer, [n]⟩

/-- The key as one element. -/
def element : Der.Element :=
  ⟨Der.Tag.sequence, numbers.flatMap Der.Element.octets⟩

/-- What the document says. -/
def info : PrivateKeyInfo :=
  ⟨⟨[0x2A, 0x86, 0x48, 0x86, 0xF7, 0x0D, 0x01, 0x01, 0x01], KeyKind.rsa.arcs,
    some ⟨Der.Tag.null, []⟩⟩, element.octets⟩

/-- The key that is read. -/
def key : Rsa.PrivateKey :=
  { modulus := 33, publicExponent := 3, privateExponent := 7, prime1 := 3, prime2 := 11 }

theorem ofDer_octets : PrivateKeyInfo.ofDer info.octets = some info := by
  refine PrivateKeyInfo.ofDer_octets ⟨by decide, ?_, rfl, by decide⟩ (by decide)
  intro e he
  simp only [AlgorithmId.elements, info, Option.toList, List.mem_cons, List.not_mem_nil,
    or_false] at he
  rcases he with rfl | rfl
  · exact ⟨rfl, by decide⟩
  · exact ⟨rfl, by decide⟩

theorem rsaPrivateKey?_info : info.rsaPrivateKey? = some key := by
  have hwhole : Der.whole? info.key = some element :=
    (Der.whole?_eq_some_iff (by decide)).2 ⟨rfl, rfl⟩
  -- a number less than 128 octets long has a length of one octet
  have hread : element.elementsOf? Der.Tag.sequence = some numbers := by
    refine Der.elementsOf?_octets fun e he => ?_
    obtain ⟨n, -, rfl⟩ := List.mem_map.1 he
    exact ⟨rfl, show 1 < 0x80 by decide⟩
  unfold PrivateKeyInfo.rsaPrivateKey?
  rw [if_pos (show info.algorithm.isExactRsa = true by decide)]
  refine Option.bind_eq_some_iff.2 ⟨element, hwhole, Option.bind_eq_some_iff.2 ⟨numbers, hread, ?_⟩⟩
  decide

end RsaDocument

/-- A document of RSA is read for the two algorithms of RSA, and for no other one. -/
theorem bound_of_material_rsa :
    (∃ key, PrivateKey.ofDer .rsaPkcs1Sha256 RsaDocument.info.octets = .ok key)
    ∧ (∃ key, PrivateKey.ofDer .rsaPssSha512 RsaDocument.info.octets = .ok key)
    ∧ ∀ key, PrivateKey.ofDer .ed25519 RsaDocument.info.octets ≠ .ok key := by
  -- the general statement for this document, of which only the document has to be read
  obtain ⟨-, -, hbound, -⟩ := bound_of_material
  obtain ⟨hbound, -⟩ := hbound RsaDocument.info.octets
  have hholds : RsaDocument.info.Holds (.rsa .pkcs1 RsaDocument.key) :=
    .rsa .pkcs1 rfl RsaDocument.rsaPrivateKey?_info
  have hread : PrivateKey.ofDer .rsaPkcs1Sha256 RsaDocument.info.octets
      = .ok (.rsa .pkcs1 RsaDocument.key) :=
    hbound.load_iff.2 ⟨⟨_, RsaDocument.ofDer_octets, hholds⟩, rfl⟩
  refine ⟨⟨_, hread⟩, hbound.together hread (.inl rfl) (.inr rfl), fun key hkey => ?_⟩
  -- two algorithms that are read have to be those of RSA
  rcases hbound.eq_or_isRsa hread hkey with h | ⟨-, h⟩
  · cases h
  · exact absurd h (by decide)

end MessageSignatures
