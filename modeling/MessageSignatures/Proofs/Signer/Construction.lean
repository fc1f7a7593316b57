import MessageSignatures.Proofs.Signer.Outcome

/-!
# What building a signer establishes

A configuration is checked in five steps, and the first one that fails tells the error
(`SignerConfig.Refused`): empty ids, repeated ids, no key at all, ids that are not printable, and
names of fields. The first two are those of the key store; each of the others is looked for in the
order of the configuration.

What has been checked need not be checked again. The store has the keys of the configuration in
their order, and the fields are those that are configured, once each. So a signature of any request
covers no component twice, and the ids of the keys can be declared: no parameters are refused while
a request is signed but for a nonce (`SignerConfig.build_decides`).
-/

namespace MessageSignatures

/-! ### Configurations -/

namespace SignerConfig

/-- **Refused configurations**, and the error for each. The rules stand in the order of the checks,
and each of them asks for what the checks before it have found in order; without keys there are no
ids to look at. -/
inductive Refused (c : SignerConfig) : Error → Prop where
  | store {e : Error} (h : KeyStore.Refused (c.keys.map Prod.fst) e) : Refused c e
  | noKey (h : c.keys = []) : Refused c (.config .noSigningKey)
  | keyId {before after : List String} {id : String} (hempty : "" ∉ c.keys.map Prod.fst)
      (hnodup : (c.keys.map Prod.fst).Nodup) (hsplit : c.keys.map Prod.fst = before ++ id :: after)
      (hbefore : ∀ other ∈ before, Text.isPrintable other = true)
      (hid : Text.isPrintable id = false) : Refused c (.config (.unprintableKeyId id))
  | fieldName {before after : List String} {name : String} (hkeys : c.HasKeys)
      (hsplit : c.covered = before ++ name :: after)
      (hbefore : ∀ other ∈ before, IsFieldName other) (hname : ¬ IsFieldName name) :
      Refused c (.componentId (.invalidFieldName (ComponentId.normalName name)))

variable {c : SignerConfig} {s : Signer}

/-- The first id that is not printable stands behind ids that are. -/
theorem find?_unprintable_eq_some {ids : List String} {id : String} :
    ids.find? (fun id => !Text.isPrintable id) = some id
      ↔ ∃ before after, ids = before ++ id :: after
        ∧ (∀ other ∈ before, Text.isPrintable other = true) ∧ Text.isPrintable id = false := by
  rw [List.find?_eq_some_iff_append]
  constructor
  · rintro ⟨hid, before, after, hsplit, hbefore⟩
    exact ⟨before, after, hsplit, fun other hother => by simpa using hbefore other hother,
      by simpa using hid⟩
  · rintro ⟨before, after, hsplit, hbefore, hid⟩
    exact ⟨by simpa using hid, before, after, hsplit,
      fun other hother => by simpa using hbefore other hother⟩

/-- The first other name among the fields to cover is one that is configured. -/
theorem coverFields_configured_eq_error_iff {e : Error} :
    coverFields [] (if c.covered = [] then defaultCovered else c.covered) = .error e
      ↔ ∃ before name after, c.covered = before ++ name :: after
        ∧ (∀ other ∈ before, IsFieldName other) ∧ ¬ IsFieldName name
        ∧ e = .componentId (.invalidFieldName (ComponentId.normalName name)) := by
  rw [coverFields_eq_error_iff]
  -- the default names are all allowed, so only configured ones are at fault
  by_cases hempty : c.covered = []
  · rw [if_pos hempty, hempty]
    constructor
    · rintro ⟨before, name, after, hsplit, -, hname, -⟩
      exact absurd (isFieldName_of_mem_defaultCovered (hsplit ▸ List.mem_append_right before
        List.mem_cons_self)) hname
    · rintro ⟨before, name, after, hsplit, -⟩
      exact absurd hsplit.symm (List.append_ne_nil_of_right_ne_nil _ (List.cons_ne_nil name after))
  · rw [if_neg hempty]

/-- **With a store**, the checks that are left: is there a key, which ids are printable, and which
names can be read. -/
theorem build_eq_error_of_store {keys : KeyStore SigningKey}
    (hstore : KeyStore.ofList c.keys = .ok keys) {e : Error} :
    c.build = .error e ↔ keys.entries = [] ∧ e = .config .noSigningKey
      ∨ keys.entries ≠ [] ∧ ((∃ id, keys.ids.find? (fun id => !Text.isPrintable id) = some id
          ∧ e = .config (.unprintableKeyId id))
        ∨ keys.ids.find? (fun id => !Text.isPrintable id) = none
          ∧ coverFields [] (if c.covered = [] then defaultCovered else c.covered) = .error e) := by
  unfold build
  rw [hstore]
  simp only
  -- in each case the checks before have found nothing, and what this one has found is the error
  split
  · next hnil => simp [hnil, eq_comm]
  · next hne =>
    split
    · next id hid => simp [hne, hid, eq_comm]
    · next hnone =>
      split
      · next hcovered => simp [hne, hnone, hcovered]
      · next hcovered => simp [hne, hnone, hcovered]

/-- **No signer is built** of refused configurations, and of no others. -/
theorem build_eq_error {e : Error} : c.build = .error e ↔ c.Refused e := by
  cases hstore : KeyStore.ofList c.keys with
  | error e' =>
    have hbuild : c.build = .error e' := by
      unfold build
      rw [hstore]
    -- the other rules are for ids that can be stored
    have hnot (hempty : "" ∉ c.keys.map Prod.fst)
        (hnodup : (c.keys.map Prod.fst).Nodup) : False := by
      obtain ⟨keys, hkeys⟩ := KeyStore.exists_ofList_iff.2 ⟨hempty, hnodup⟩
      rw [hstore] at hkeys
      cases hkeys
    rw [hbuild]
    constructor
    · intro h
      cases h
      exact .store (KeyStore.ofList_eq_error.1 hstore)
    · rintro (h | h | ⟨hempty, hnodup, -⟩ | ⟨hkeys, -⟩)
      · rw [Except.error.inj (hstore.symm.trans (KeyStore.ofList_eq_error.2 h))]
      · exact (hnot (by simp [h]) (by simp [h])).elim
      · exact (hnot hempty hnodup).elim
      · exact (hnot hkeys.id_ne_empty hkeys.nodup).elim
  | ok keys =>
    have hentries := KeyStore.ofList_eq_ok.1 hstore
    have hids : keys.ids = c.keys.map Prod.fst := congrArg (List.map Prod.fst) hentries
    obtain ⟨hempty, hnodup⟩ := KeyStore.exists_ofList_iff.1 ⟨keys, hstore⟩
    -- the remaining rules in the order of the checks
    rw [build_eq_error_of_store hstore, coverFields_configured_eq_error_iff, hentries, hids]
    constructor
    · rintro (⟨hnil, rfl⟩ | ⟨hne, ⟨id, hid, rfl⟩ |
        ⟨hnone, before, name, after, hsplit, hbefore, hname, rfl⟩⟩)
      · exact .noKey hnil
      · obtain ⟨before, after, hsplit, hbefore, hid⟩ := find?_unprintable_eq_some.1 hid
        exact .keyId hempty hnodup hsplit hbefore hid
      · have hprintable : ∀ id ∈ c.keys.map Prod.fst, Text.isPrintable id = true := by
          simpa using hnone
        exact .fieldName ⟨hne, hempty, hnodup, hprintable⟩ hsplit hbefore hname
    · rintro (h | h | ⟨-, -, hsplit, hbefore, hid⟩ | ⟨hkeys, hsplit, hbefore, hname⟩)
      · exact nomatch hstore.symm.trans (KeyStore.ofList_eq_error.2 h)
      · exact .inl ⟨h, rfl⟩
      · have hne : c.keys ≠ [] := by
          rintro hnil
          rw [hnil] at hsplit
          exact absurd hsplit.symm (List.append_ne_nil_of_right_ne_nil _ (List.cons_ne_nil _ _))
        exact .inr ⟨hne, .inl ⟨_, find?_unprintable_eq_some.2 ⟨_, _, hsplit, hbefore, hid⟩, rfl⟩⟩
      · have hnone : (c.keys.map Prod.fst).find? (fun id => !Text.isPrintable id) = none := by
          simpa using hkeys.printable
        exact .inr ⟨hkeys.keys_ne_nil, .inr ⟨hnone, _, _, _, hsplit, hbefore, hname, rfl⟩⟩

end SignerConfig

/-! ### Signers -/

namespace Signer

variable {c : SignerConfig} {s : Signer} {v : RequestView} {now : Timestamp}

/-- **Parameters are made** for every key and every request. -/
theorem new_of_mem_keys {entry : String × SigningKey} (h : entry ∈ s.keys.entries) :
    SignatureParams.new (s.coveredOn v) now entry.2.alg entry.1
      = .ok ⟨now, none, none, entry.2.alg.tag, entry.1, s.coveredOn v, none⟩ := by
  obtain ⟨hne, hprintable⟩ := s.keyId_of_mem h
  exact SignatureParams.new_eq_ok.2 ⟨nodup_withHead _, hne, hprintable, rfl⟩

/-- Parameters are refused for a nonce only. -/
theorem eq_invalidNonce_of_sign (hbuild : c.build = .ok s) {entropy : Nat → Entropy}
    {fault : ParamsFault} (h : s.sign now entropy v = .error (.params fault)) :
    fault = .invalidNonce := by
  obtain ⟨before, entry, after, -, -, hfails⟩ := (sign_eq_error_iff hbuild now entropy v _).1 h
  cases hfails with
  | nonce => rfl

end Signer

namespace SignerConfig

/-- **Building a signer.**

* It succeeds exactly if there is a key, no id is empty, repeated or unprintable, and HTTP allows
  all names of fields.
* Otherwise the error is for an empty id; else for the first id that repeats an earlier one; else
  for want of a key; else for the first id that is not printable; else for the first name that is
  not allowed.
* The store of a signer has the configured keys in their order and finds each under its id and no
  other. The signer covers what the names stand for, each component once and in the order of the
  first mention. So all parameters that it makes on the way to a signature are made, whatever the
  request; signing is refused for parameters only if a nonce is not printable. -/
theorem build_decides (c : SignerConfig) :
    ((∃ s, c.build = .ok s) ↔ c.HasKeys ∧ ∀ name ∈ c.covered, IsFieldName name)
      ∧ (∀ e, c.build = .error e ↔ c.Refused e)
      ∧ ∀ s, c.build = .ok s →
        s.keys.entries = c.keys
        ∧ (∀ id key, s.keys.get? id = some key ↔ (id, key) ∈ c.keys)
        ∧ (∃ ids, (if c.covered = [] then defaultCovered else c.covered).mapM ComponentId.ofField
            = .ok ids ∧ Additions [] ids s.covered)
        ∧ (∀ v now, ∀ entry ∈ s.keys.entries,
          SignatureParams.new (s.coveredOn (Signer.working v)) now entry.2.alg entry.1
            = .ok ⟨now, none, none, entry.2.alg.tag, entry.1, s.coveredOn (Signer.working v), none⟩)
        ∧ ∀ v now entropy fault, s.sign now entropy v = .error (.params fault) →
          fault = .invalidNonce := by
  refine ⟨exists_build_iff, fun e => build_eq_error, fun s hs => ?_⟩
  -- the covered components are those of the names, each once
  obtain ⟨hentries, -, hcovered⟩ := build_eq_ok hs
  obtain ⟨ids, hids, hfold⟩ := coverFields_eq_ok.1 hcovered
  obtain ⟨added, heq, hadded⟩ := exists_additions [] ids
  have hadditions : s.covered = added := hfold.symm.trans heq
  refine ⟨hentries, fun id key => ?_, ⟨ids, hids, hadditions ▸ hadded⟩,
    fun v now entry hentry => Signer.new_of_mem_keys hentry,
    fun v now entropy fault hsign => Signer.eq_invalidNonce_of_sign hs hsign⟩
  rw [KeyStore.get?_eq_some_iff, hentries]

open Signer.Bare (secret)

namespace Spaced

/-- A configuration that names a field twice, with other white space and in another case. One id
could be a label, the other one could not. -/
def config : SignerConfig where
  keys := [("Key 1", secret), ("sig1", secret.withRandomNonce)]
  covered := [" X-A", "content-digest", "x-a\t"]

/-- A configuration with two ids that are repeated, and a name that is not allowed. -/
def repeating : SignerConfig where
  keys := [("b", secret), ("a", secret), ("a", secret), ("b", secret)]
  covered := ["x a"]

theorem hasKeys_config : config.HasKeys :=
  ⟨List.cons_ne_nil _ _, by decide, by decide, by decide⟩

theorem isFieldName_config : ∀ name ∈ config.covered, IsFieldName name := by
  unfold IsFieldName
  decide

end Spaced

open Spaced in
/-- What is named twice is covered once, where it is named first. Of two repeated ids the one is
told that is repeated first, and before the name of the field. -/
theorem build_decides_spaced :
    config.HasKeys ∧ (∀ name ∈ config.covered, IsFieldName name)
      ∧ (∃ s, config.build = .ok s ∧ s.keys.get? "sig1" = some secret.withRandomNonce
        ∧ s.covered.map ComponentId.name = ["x-a", "content-digest"])
      ∧ repeating.build = .error (.duplicateKeyId "a") := by
  refine ⟨hasKeys_config, isFieldName_config, ?_, ?_⟩
  · obtain ⟨s, hs⟩ := (build_decides config).1.2 ⟨hasKeys_config, isFieldName_config⟩
    obtain ⟨-, hget, -⟩ := (build_decides config).2.2 s hs
    refine ⟨s, hs, (hget _ _).2 (List.mem_cons_of_mem _ List.mem_cons_self), ?_⟩
    obtain ⟨ids, hids, hfold⟩ := coverFields_eq_ok.1 (build_eq_ok hs).2.2
    have hnames : ids.map ComponentId.name = config.covered.map ComponentId.normalName :=
      ComponentId.map_name_of_mapM_ofField hids
    have hnormal : config.covered.map ComponentId.normalName
        = ["x-a", "content-digest", "x-a"] := by
      decide +kernel
    rw [← hfold, ComponentId.map_name_foldl_addComponent, hnames, hnormal]
    decide
  · have hsplit : repeating.keys.map Prod.fst = ["b", "a"] ++ "a" :: ["b"] := rfl
    exact ((build_decides repeating).2.1 _).2
      (.store (.repeatedId (by decide) hsplit (by decide) (by decide)))

end SignerConfig

end MessageSignatures
