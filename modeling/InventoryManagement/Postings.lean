import Mathlib.Algebra.BigOperators.Group.List.Basic
import Mathlib.Algebra.Order.Group.Defs
import Mathlib.Algebra.Order.Monoid.Unbundled.Basic

/-! Accounts whose levels are changed by postings: each takes an amount from one account,
puts it on another one, or both at once. -/

set_option autoImplicit false

namespace InventoryManagement.Postings

/-- An account that was never used has no level. -/
abbrev Levels (Account Amount : Type) := Account → Option Amount

structure Posting (Account Amount : Type) [Zero Amount] [LT Amount] where
  source : Option Account
  destination : Option Account
  amount : Amount
  positive : 0 < amount
  apart : ∀ account ∈ source, account ∉ destination

variable {Account Amount : Type} [AddCommGroup Amount]

def level (levels : Levels Account Amount) (account : Account) : Amount := (levels account).getD 0

theorem levels_ext {levels others : Levels Account Amount}
    (used : ∀ account, (levels account).isSome ↔ (others account).isSome)
    (same : ∀ account, level levels account = level others account) : levels = others := by
  funext account
  have here := used account
  have equal := same account
  rw [level, level] at equal
  cases left : levels account with
  | none =>
      rw [left] at here
      cases right : others account with
      | none => rfl
      | some held => simp [right] at here
  | some held =>
      rw [left] at here equal
      cases right : others account with
      | none => simp [right] at here
      | some other =>
          rw [right] at equal
          exact congrArg some equal

variable [LinearOrder Amount]

namespace Posting

variable [DecidableEq Account]

def Names (posting : Posting Account Amount) (account : Account) : Prop :=
  posting.source = some account ∨ posting.destination = some account

instance (posting : Posting Account Amount) (account : Account) :
    Decidable (posting.Names account) := inferInstanceAs (Decidable (_ ∨ _))

def change (posting : Posting Account Amount) (account : Account) : Amount :=
  (if posting.destination = some account then posting.amount else 0) -
    if posting.source = some account then posting.amount else 0

end Posting

/-- The source holds the amount, and the destination has room for it. -/
structure Admits (room : Amount → Bool) (levels : Levels Account Amount)
    (posting : Posting Account Amount) : Prop where
  covered : ∀ account ∈ posting.source, ∃ held ∈ levels account, posting.amount ≤ held
  room : ∀ account ∈ posting.destination, room (level levels account + posting.amount) = true

theorem admits_iff {room : Amount → Bool} {levels : Levels Account Amount}
    {posting : Posting Account Amount} :
    (∀ account ∈ posting.source, ∃ held ∈ levels account, posting.amount ≤ held) ∧
      (∀ account ∈ posting.destination, room (level levels account + posting.amount) = true) ↔
    Admits room levels posting :=
  ⟨fun holds => ⟨holds.1, holds.2⟩, fun admits => ⟨admits.covered, admits.room⟩⟩

variable [DecidableEq Account]

def posted (levels : Levels Account Amount) (posting : Posting Account Amount) :
    Levels Account Amount :=
  fun account =>
    if posting.Names account then some (level levels account + posting.change account)
    else levels account

section Rules

variable {room : Amount → Bool} {levels after : Levels Account Amount}
variable {posting : Posting Account Amount} {postings others : List (Posting Account Amount)}
variable {account : Account}

instance : Decidable (Admits room levels posting) := decidable_of_iff _ admits_iff

/-- A posting that is not admitted is refused. -/
def post (room : Amount → Bool) (levels : Levels Account Amount)
    (posting : Posting Account Amount) : Option (Levels Account Amount) :=
  if Admits room levels posting then some (posted levels posting) else none

/-- One posting after another, none of them refused. -/
def postAll (room : Amount → Bool) (levels : Levels Account Amount) :
    List (Posting Account Amount) → Option (Levels Account Amount)
  | [] => some levels
  | posting :: rest => (post room levels posting).bind (fun after => postAll room after rest)

theorem post_eq_some :
    post room levels posting = some after ↔ Admits room levels posting ∧ posted levels posting = after := by
  rw [post]
  split
  · next admits => simp [admits]
  · next refused => simp [refused]

theorem postAll_append :
    postAll room levels (postings ++ others) =
      (postAll room levels postings).bind (fun middle => postAll room middle others) := by
  induction postings generalizing levels with
  | nil => rfl
  | cons posting rest ih =>
      rw [List.cons_append, postAll, postAll]
      cases post room levels posting with
      | none => rfl
      | some middle => exact ih

theorem postAll_concat :
    postAll room levels (postings ++ [posting]) =
      (postAll room levels postings).bind (fun middle => post room middle posting) := by
  rw [postAll_append]
  congr 1
  funext middle
  rw [postAll]
  cases post room middle posting <;> rfl

theorem level_posted : level (posted levels posting) account =
    level levels account + posting.change account := by
  rw [level, posted]
  split
  · rfl
  · next other =>
      rw [Posting.Names, not_or] at other
      rw [Posting.change, if_neg other.1, if_neg other.2, sub_self, add_zero]
      rfl

theorem isSome_posted : (posted levels posting account).isSome ↔
    (levels account).isSome ∨ posting.Names account := by
  rw [posted]
  split
  · next named => simp [named]
  · next other => simp [other]

theorem change_of_destination (named : posting.destination = some account) :
    posting.change account = posting.amount := by
  have other : posting.source ≠ some account :=
    fun source => posting.apart account source named
  rw [Posting.change, if_pos named, if_neg other, sub_zero]

theorem change_of_source (named : posting.source = some account) :
    posting.change account = -posting.amount := by
  have other : posting.destination ≠ some account :=
    fun destination => posting.apart account named destination
  rw [Posting.change, if_neg other, if_pos named, zero_sub]

/-- No level goes below zero. -/
theorem nonneg_posted [IsOrderedAddMonoid Amount] (admits : Admits room levels posting)
    (nonneg : ∀ account, 0 ≤ level levels account) (account : Account) :
    0 ≤ level (posted levels posting) account := by
  rw [level_posted]
  by_cases source : posting.source = some account
  · obtain ⟨held, here, enough⟩ := admits.covered account source
    rw [change_of_source source, level, Option.mem_def.mp here, Option.getD_some, ← sub_eq_add_neg]
    exact sub_nonneg.mpr enough
  · by_cases destination : posting.destination = some account
    · rw [change_of_destination destination]
      exact add_nonneg (nonneg account) posting.positive.le
    · rw [Posting.change, if_neg source, if_neg destination, sub_self, add_zero]
      exact nonneg account

theorem level_foldl (levels : Levels Account Amount) (postings : List (Posting Account Amount))
    (account : Account) : level (postings.foldl posted levels) account =
      level levels account + (postings.map (fun posting => posting.change account)).sum := by
  induction postings generalizing levels with
  | nil => rw [List.foldl_nil, List.map_nil, List.sum_nil, add_zero]
  | cons posting rest ih =>
      rw [List.foldl_cons, ih, level_posted, List.map_cons, List.sum_cons, add_assoc]

theorem isSome_foldl (levels : Levels Account Amount) (postings : List (Posting Account Amount))
    (account : Account) : (postings.foldl posted levels account).isSome ↔
      (levels account).isSome ∨ ∃ posting ∈ postings, posting.Names account := by
  induction postings generalizing levels with
  | nil => simp
  | cons posting rest ih =>
      rw [List.foldl_cons, ih, isSome_posted, List.exists_mem_cons_iff, or_assoc]

/-- The order of postings does not matter to the levels they end in. -/
theorem foldl_perm (levels : Levels Account Amount) (perm : postings.Perm others) :
    postings.foldl posted levels = others.foldl posted levels := by
  apply levels_ext
  · intro account
    rw [isSome_foldl, isSome_foldl]
    simp only [perm.mem_iff]
  · intro account
    rw [level_foldl, level_foldl, (perm.map _).sum_eq]

theorem postAll_foldl (replayed : postAll room levels postings = some after) :
    postings.foldl posted levels = after := by
  induction postings generalizing levels with
  | nil => exact Option.some.inj replayed
  | cons posting rest ih =>
      obtain ⟨middle, admitted, later⟩ := Option.bind_eq_some_iff.mp replayed
      obtain ⟨_, rfl⟩ := post_eq_some.mp admitted
      exact ih later

end Rules

end InventoryManagement.Postings
