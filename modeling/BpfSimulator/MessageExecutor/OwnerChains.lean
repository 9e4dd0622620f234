import Mathlib.Data.List.Nodup
import BpfSimulator.Foundation.Chain
import BpfSimulator.MessageExecutor.TransactionLoader

/-! Chains of owners and their resolution. Every round of the search for the
native loader either ends a chain or moves on to the next owner, whose place
among the accounts is then known; owners that were not there are appended. -/

set_option autoImplicit false

namespace BpfSimulator.AccountLoader

open Foundation

variable {Programs : Type} {loader : AccountLoader Programs} {base appended : List TransactionAccount}

def nextOwner (loader : AccountLoader Programs) (account : TransactionAccount) : Option TransactionAccount :=
  (loader.g account.2.owner).map fun owner => (account.2.owner, owner)

def NativelyOwned (account : TransactionAccount) : Prop := account.2.owner = nativeLoaderId

/-- The account and its owners, up to the one that the native loader owns. -/
abbrev OwnerChain (loader : AccountLoader Programs) : TransactionAccount → List TransactionAccount → Prop :=
  Chain NativelyOwned (nextOwner loader)

/-- Every appended account is the owner of an earlier one, and none twice. -/
structure AppendedOwners (loader : AccountLoader Programs) (base appended : List TransactionAccount) : Prop where
  distinct : (appended.map Prod.fst).Nodup
  notNative : ∀ owner ∈ appended, owner.1 ≠ nativeLoaderId
  owners : ∀ before owner after, appended = before ++ owner :: after →
    ∃ account ∈ base ++ before, nextOwner loader account = some owner

theorem nextOwner_eq_some {account owner : TransactionAccount} :
    nextOwner loader account = some owner ↔ owner.1 = account.2.owner ∧ loader.g owner.1 = some owner.2 := by
  obtain ⟨ownerId, ownerAccount⟩ := owner
  simp only [nextOwner, Option.map_eq_some_iff, Prod.mk.injEq]
  constructor
  · intro found
    obtain ⟨_, found, rfl, rfl⟩ := found
    exact ⟨rfl, found⟩
  · intro found
    obtain ⟨rfl, found⟩ := found
    exact ⟨ownerAccount, found, rfl, rfl⟩

section Growth

/-- What the search keeps of the accounts: they are the message's and appended
owners, and all of these lie within five steps of the message's accounts. -/
structure Grown (loader : AccountLoader Programs) (base appended : List TransactionAccount) : Prop
    extends AppendedOwners loader base appended where
  reached : ∀ owner ∈ appended, owner ∈ base.flatMap (followers (nextOwner loader) 5)

theorem Grown.start (loader : AccountLoader Programs) (base : List TransactionAccount) : Grown loader base [] where
  distinct := List.nodup_nil
  notNative := fun _ member => absurd member List.not_mem_nil
  owners := fun _ _ _ split => by simp at split
  reached := fun _ member => absurd member List.not_mem_nil

theorem Grown.found (grown : Grown loader base appended) {owner : TransactionAccount} (member : owner ∈ appended) :
    loader.g owner.1 = some owner.2 := by
  obtain ⟨before, after, split⟩ := List.append_of_mem member
  obtain ⟨account, _, next⟩ := grown.owners before owner after split
  exact (nextOwner_eq_some.mp next).2

/-- There are few appended accounts, however many instructions there are. -/
theorem Grown.length_le (grown : Grown loader base appended) : appended.length ≤ base.length * 5 :=
  length_le_of_followers (List.Nodup.of_map _ grown.distinct) grown.reached

theorem Grown.append (grown : Grown loader base appended) {account owner : TransactionAccount}
    (member : account ∈ base ++ appended) (onward : ¬ NativelyOwned account)
    (next : nextOwner loader account = some owner) (fresh : owner.1 ∉ appended.map Prod.fst)
    (near : owner ∈ base.flatMap (followers (nextOwner loader) 5)) : Grown loader base (appended ++ [owner]) where
  distinct := by
    rw [List.map_append]
    exact List.Nodup.append grown.distinct (List.nodup_singleton _) (by simpa using fresh)
  notNative := by
    intro added member
    rcases List.mem_append.mp member with earlier | last
    · exact grown.notNative added earlier
    · obtain rfl := List.mem_singleton.mp last
      rw [(nextOwner_eq_some.mp next).1]
      exact onward
  owners := by
    intro before added after split
    rcases List.eq_nil_or_concat after with rfl | ⟨after, last, rfl⟩
    · obtain ⟨rfl, same⟩ := List.append_inj' split rfl
      cases same
      exact ⟨account, member, next⟩
    · rw [List.concat_eq_append, ← List.cons_append, ← List.append_assoc] at split
      exact grown.owners before added after (List.append_inj' split rfl).1
  reached := by
    intro added member
    rcases List.mem_append.mp member with earlier | last
    · exact grown.reached added earlier
    · obtain rfl := List.mem_singleton.mp last
      exact near

end Growth

section Rounds

variable {account owner : TransactionAccount}

theorem findOwner_present (grown : Grown loader base appended) (next : nextOwner loader account = some owner)
    (present : owner.1 ∈ appended.map Prod.fst) :
    ∃ index, loader.findOwner base.length (base ++ appended) account.2.owner = .ok (base ++ appended, index) ∧
      base.length ≤ index ∧ (base ++ appended)[index]? = some owner := by
  obtain ⟨key, found⟩ := nextOwner_eq_some.mp next
  have enough : ¬ (base ++ appended).length < base.length := by simp
  unfold findOwner
  rw [if_neg enough, List.drop_left]
  cases searched : appended.findIdx? (fun candidate => candidate.1 = account.2.owner) with
  | some index =>
      obtain ⟨bound, matches', _⟩ := List.findIdx?_eq_some_iff_getElem.mp searched
      have sameKey : appended[index].1 = owner.1 := (of_decide_eq_true matches').trans key.symm
      have sameAccount : appended[index].2 = owner.2 := by
        have known := grown.found (List.getElem_mem bound)
        rw [sameKey, found] at known
        exact (Option.some.inj known).symm
      refine ⟨base.length + index, rfl, Nat.le_add_right _ _, ?_⟩
      rw [List.getElem?_append_right (Nat.le_add_right _ _), Nat.add_sub_cancel_left,
        List.getElem?_eq_getElem bound]
      exact congrArg some (Prod.ext sameKey sameAccount)
  | none =>
      obtain ⟨candidate, inside, same⟩ := List.mem_map.mp present
      have different := List.findIdx?_eq_none_iff.mp searched candidate inside
      exact absurd (same.trans key) (of_decide_eq_false different)

theorem findOwner_absent (next : nextOwner loader account = some owner)
    (fresh : owner.1 ∉ appended.map Prod.fst) :
    loader.findOwner base.length (base ++ appended) account.2.owner =
      .ok (base ++ (appended ++ [owner]), (base ++ appended).length) := by
  obtain ⟨key, found⟩ := nextOwner_eq_some.mp next
  have enough : ¬ (base ++ appended).length < base.length := by simp
  have searched : appended.findIdx? (fun candidate => candidate.1 = account.2.owner) = none := by
    rw [List.findIdx?_eq_none_iff]
    intro candidate inside
    apply decide_eq_false
    intro same
    exact fresh (List.mem_map.mpr ⟨candidate, inside, same.trans key.symm⟩)
  unfold findOwner
  rw [if_neg enough, List.drop_left, searched]
  rw [key] at found
  simp only [getAccountWithFixedRoot, found, ← List.append_assoc]
  rw [← key]
  rfl

theorem findOwner_ok (grown : Grown loader base appended) (member : account ∈ base ++ appended)
    (onward : ¬ NativelyOwned account) (next : nextOwner loader account = some owner)
    (near : owner ∈ base.flatMap (followers (nextOwner loader) 5)) :
    ∃ appended' index, loader.findOwner base.length (base ++ appended) account.2.owner =
        .ok (base ++ appended', index) ∧
      appended <+: appended' ∧ Grown loader base appended' ∧
      (∀ added ∈ appended', added ∈ appended ∨ added = owner) ∧
      base.length ≤ index ∧ (base ++ appended')[index]? = some owner := by
  by_cases present : owner.1 ∈ appended.map Prod.fst
  · obtain ⟨index, ran, behind, place⟩ := findOwner_present grown next present
    exact ⟨appended, index, ran, List.prefix_refl _, grown, fun _ inside => .inl inside, behind, place⟩
  · refine ⟨appended ++ [owner], (base ++ appended).length, findOwner_absent next present, List.prefix_append _ _,
      grown.append member onward next present near, ?_, by simp, ?_⟩
    · intro added inside
      rcases List.mem_append.mp inside with earlier | last
      · exact .inl earlier
      · exact .inr (List.mem_singleton.mp last)
    · rw [← List.append_assoc, List.getElem?_append_right (Nat.le_refl _), Nat.sub_self]
      rfl

theorem findOwner_error (grown : Grown loader base appended) (missing : nextOwner loader account = none) :
    loader.findOwner base.length (base ++ appended) account.2.owner =
      .error (.transaction .programAccountNotFound) := by
  have unknown : loader.g account.2.owner = none := Option.map_eq_none_iff.mp missing
  have enough : ¬ (base ++ appended).length < base.length := by simp
  have searched : appended.findIdx? (fun candidate => candidate.1 = account.2.owner) = none := by
    rw [List.findIdx?_eq_none_iff]
    intro candidate inside
    apply decide_eq_false
    intro same
    have known := grown.found inside
    rw [same, unknown] at known
    cases known
  unfold findOwner
  rw [if_neg enough, List.drop_left, searched]
  simp only [getAccountWithFixedRoot, unknown]
  rfl

end Rounds

section Resolution

variable {account : TransactionAccount} {accounts : List TransactionAccount} {start rounds index : Nat}
  {accountIndices : List UInt16}

theorem resolveProgram_native (place : accounts[index]? = some account) (native : account.1 = nativeLoaderId) :
    loader.resolveProgram start (rounds + 1) accounts accountIndices index = .ok (accounts, accountIndices) := by
  simp only [resolveProgram, place, if_pos native]
  rfl

theorem resolveProgram_last (place : accounts[index]? = some account) (ordinary : account.1 ≠ nativeLoaderId)
    (reached : NativelyOwned account) :
    loader.resolveProgram start (rounds + 1) accounts accountIndices index =
      .ok (accounts, UInt16.ofNat index :: accountIndices) := by
  unfold NativelyOwned at reached
  simp only [resolveProgram, place, if_neg ordinary, if_pos reached]
  rfl

theorem resolveProgram_next (place : accounts[index]? = some account) (ordinary : account.1 ≠ nativeLoaderId)
    (onward : ¬ NativelyOwned account) :
    loader.resolveProgram start (rounds + 1) accounts accountIndices index =
      (loader.findOwner start accounts account.2.owner).bind fun found =>
        loader.resolveProgram start rounds found.1 (UInt16.ofNat index :: accountIndices) found.2 := by
  unfold NativelyOwned at onward
  simp only [resolveProgram, place, if_neg ordinary, if_neg onward]
  rfl

theorem getElem?_of_base (place : base[index]? = some account) (appended : List TransactionAccount) :
    (base ++ appended)[index]? = some account := by
  rw [List.getElem?_append_left (List.getElem?_eq_some_iff.mp place).1, place]

theorem getElem?_of_grown {more : List TransactionAccount} (grew : appended <+: more)
    (place : (base ++ appended)[index]? = some account) : (base ++ more)[index]? = some account := by
  obtain ⟨bound, _⟩ := List.getElem?_eq_some_iff.mp place
  obtain ⟨added, rfl⟩ := grew
  rw [← List.append_assoc, List.getElem?_append_left bound, place]

theorem resolveProgram_ok {chain : List TransactionAccount} (followed : OwnerChain loader account chain)
    (short : chain.length ≤ rounds) (grown : Grown loader base appended)
    (place : (base ++ appended)[index]? = some account) (ordinary : account.1 ≠ nativeLoaderId)
    (near : ∀ owner ∈ followers (nextOwner loader) rounds account,
      owner ∈ base.flatMap (followers (nextOwner loader) 5)) :
    ∃ appended' owners, loader.resolveProgram base.length rounds (base ++ appended) accountIndices index =
        .ok (base ++ appended', ((index :: owners).map UInt16.ofNat).reverse ++ accountIndices) ∧
      appended <+: appended' ∧ Grown loader base appended' ∧
      (∀ added ∈ appended', added ∈ appended ∨ added ∈ chain.tail) ∧ (∀ place ∈ owners, base.length ≤ place) ∧
      (index :: owners).map (fun place => (base ++ appended')[place]?) = chain.map some := by
  induction followed generalizing rounds index accountIndices appended with
  | @last account reached =>
      obtain ⟨rounds, rfl⟩ := Nat.exists_eq_add_of_le' short
      refine ⟨appended, [], resolveProgram_last place ordinary reached, List.prefix_refl _, grown,
        fun _ inside => .inl inside, fun _ member => absurd member List.not_mem_nil, ?_⟩
      simpa using place
  | @step account owner rest onward found tail ih =>
      obtain ⟨rounds, rfl⟩ := Nat.exists_eq_add_of_le' (Nat.lt_of_lt_of_le (Nat.succ_pos _) short)
      rw [followers_succ found] at near
      obtain ⟨middle, ownerIndex, ran, grew, grownMiddle, addedOwner, behind, ownerPlace⟩ :=
        findOwner_ok grown (List.mem_of_getElem? place) onward found (near owner (.head _))
      have ordinaryOwner : owner.1 ≠ nativeLoaderId := by
        rw [(nextOwner_eq_some.mp found).1]
        exact onward
      obtain ⟨final, owners, resolved, grewOn, grownFinal, addedRest, allBehind, places⟩ :=
        @ih middle rounds ownerIndex (UInt16.ofNat index :: accountIndices) (Nat.le_of_succ_le_succ short)
          grownMiddle ownerPlace ordinaryOwner fun later member => near later (.tail _ member)
      refine ⟨final, ownerIndex :: owners, ?_, grew.trans grewOn, grownFinal, ?_, ?_, ?_⟩
      · rw [resolveProgram_next place ordinary onward, ran]
        refine resolved.trans ?_
        simp only [List.map_cons, List.reverse_cons, List.append_assoc, List.cons_append, List.nil_append]
      · intro added inside
        rcases addedRest added inside with earlier | later
        · rcases addedOwner added earlier with before | rfl
          · exact .inl before
          · exact .inr tail.first_mem
        · exact .inr (List.mem_of_mem_tail later)
      · intro place member
        rcases List.mem_cons.mp member with rfl | later
        · exact behind
        · exact allBehind place later
      · rw [List.map_cons, List.map_cons, List.map_cons, ← List.map_cons, places,
          getElem?_of_grown (grew.trans grewOn) place]

/-- A chain whose owners are all there is followed without appending any. -/
theorem resolveProgram_present {chain : List TransactionAccount} (followed : OwnerChain loader account chain)
    (short : chain.length ≤ rounds) (grown : Grown loader base appended)
    (place : (base ++ appended)[index]? = some account) (ordinary : account.1 ≠ nativeLoaderId)
    (present : ∀ owner ∈ chain.tail, owner ∈ appended) :
    ∃ indices, loader.resolveProgram base.length rounds (base ++ appended) accountIndices index =
      .ok (base ++ appended, indices) := by
  induction followed generalizing rounds index accountIndices with
  | @last account reached =>
      obtain ⟨rounds, rfl⟩ := Nat.exists_eq_add_of_le' short
      exact ⟨_, resolveProgram_last place ordinary reached⟩
  | @step account owner rest onward found tail ih =>
      obtain ⟨rounds, rfl⟩ := Nat.exists_eq_add_of_le' (Nat.lt_of_lt_of_le (Nat.succ_pos _) short)
      obtain ⟨ownerIndex, ran, _, ownerPlace⟩ :=
        findOwner_present grown found (List.mem_map_of_mem (present owner tail.first_mem))
      have ordinaryOwner : owner.1 ≠ nativeLoaderId := by
        rw [(nextOwner_eq_some.mp found).1]
        exact onward
      rw [resolveProgram_next place ordinary onward, ran]
      exact ih (Nat.le_of_succ_le_succ short) ownerPlace ordinaryOwner
        fun later member => present later (List.mem_of_mem_tail member)

theorem resolveProgram_error (grown : Grown loader base appended)
    (place : (base ++ appended)[index]? = some account) (ordinary : account.1 ≠ nativeLoaderId)
    (near : ∀ owner ∈ followers (nextOwner loader) rounds account,
      owner ∈ base.flatMap (followers (nextOwner loader) 5))
    (unresolved : ¬ ∃ chain, OwnerChain loader account chain ∧ chain.length ≤ rounds) :
    ∃ error, loader.resolveProgram base.length rounds (base ++ appended) accountIndices index = .error error := by
  induction rounds generalizing appended account index accountIndices with
  | zero => exact ⟨_, rfl⟩
  | succ rounds ih =>
      have onward : ¬ NativelyOwned account := fun reached =>
        unresolved ⟨_, .last reached, Nat.succ_le_succ (Nat.zero_le _)⟩
      rw [resolveProgram_next place ordinary onward]
      cases found : nextOwner loader account with
      | none =>
          rw [findOwner_error grown found]
          exact ⟨_, rfl⟩
      | some owner =>
          rw [followers_succ found] at near
          obtain ⟨middle, ownerIndex, ran, _, grownMiddle, _, _, ownerPlace⟩ :=
            findOwner_ok grown (List.mem_of_getElem? place) onward found (near owner (.head _))
          have ordinaryOwner : owner.1 ≠ nativeLoaderId := by
            rw [(nextOwner_eq_some.mp found).1]
            exact onward
          rw [ran]
          refine ih grownMiddle ownerPlace ordinaryOwner (fun later member => near later (.tail _ member)) ?_
          intro resolvable
          obtain ⟨chain, followed, short⟩ := resolvable
          exact unresolved ⟨_, .step onward found followed, Nat.succ_le_succ short⟩

end Resolution

end BpfSimulator.AccountLoader
