import InventoryManagement.Postings

/-! A board of accounts with levels and alarms. Postings move the levels and set the alarms
of the accounts they name, a survey sets those of all accounts, and an alarm can be
silenced. -/

set_option autoImplicit false

namespace InventoryManagement.Alarms

open Postings (Levels Posting post posted)

structure Board (Account Amount Alarm : Type) where
  levels : Levels Account Amount
  alarms : Account → Option Alarm

variable {Account Amount Alarm : Type}

theorem Board.ext {board other : Board Account Amount Alarm} (levels : board.levels = other.levels)
    (alarms : ∀ account, board.alarms account = other.alarms account) : board = other := by
  cases board
  cases other
  cases levels
  rw [Board.mk.injEq]
  exact ⟨rfl, funext alarms⟩

/-- The alarm that an account's level calls for; an unused account calls for none. -/
def called (condition : Account → Amount → Option Alarm) (levels : Levels Account Amount)
    (account : Account) : Option Alarm := (levels account).bind (condition account)

inductive Instruction (Account Amount : Type) [Zero Amount] [LT Amount] where
  | post (posting : Posting Account Amount)
  | survey
  | silence (account : Account)

variable [AddCommGroup Amount] [LinearOrder Amount] [DecidableEq Account]
variable (condition : Account → Amount → Option Alarm) (room : Amount → Bool)

namespace Board

/-- Set the alarms of some accounts by their levels. -/
def assess (board : Board Account Amount Alarm) (accounts : Account → Prop)
    [DecidablePred accounts] : Board Account Amount Alarm where
  levels := board.levels
  alarms account := if accounts account then called condition board.levels account
    else board.alarms account

/-- A posting that is not admitted leaves the board as it is. -/
def step (board : Board Account Amount Alarm) :
    Instruction Account Amount → Board Account Amount Alarm
  | .post posting =>
      match post room board.levels posting with
      | none => board
      | some levels => ({ board with levels } : Board Account Amount Alarm).assess condition
          posting.Names
  | .survey => board.assess condition (fun account => (board.levels account).isSome)
  | .silence account => { board with alarms := Function.update board.alarms account none }

/-- Every used account has the alarm that its level calls for. -/
def Right (board : Board Account Amount Alarm) : Prop :=
  ∀ account, (board.levels account).isSome →
    board.alarms account = called condition board.levels account

variable {condition room} {board : Board Account Amount Alarm}

theorem right_survey : (board.step condition room .survey).Right condition := by
  intro account used
  exact if_pos used

theorem right_post (right : board.Right condition) (posting : Posting Account Amount) :
    (board.step condition room (.post posting)).Right condition := by
  intro account used
  rw [step] at used ⊢
  split at used
  · exact right account used
  · next levels admitted =>
      obtain ⟨_, rfl⟩ := Postings.post_eq_some.mp admitted
      simp only [assess]
      by_cases named : posting.Names account
      · rw [if_pos named]
      · rw [if_neg named]
        have before := right account
        simp only [assess, posted, if_neg named] at used
        rw [before used, called, called, posted, if_neg named]

theorem right_step (right : board.Right condition) {instruction : Instruction Account Amount}
    (loud : ∀ account, instruction ≠ .silence account) :
    (board.step condition room instruction).Right condition := by
  cases instruction with
  | post posting => exact right_post right posting
  | survey => exact right_survey
  | silence account => exact absurd rfl (loud account)

/-- From a survey on the alarms stay right until one of them is silenced. -/
theorem right_since_survey (board : Board Account Amount Alarm)
    (earlier later : List (Instruction Account Amount))
    (loud : ∀ account, .silence account ∉ later) :
    ((earlier ++ .survey :: later).foldl (step condition room) board).Right condition := by
  rw [List.foldl_append, List.foldl_cons]
  have surveyed : ((earlier.foldl (step condition room) board).step condition room
      .survey).Right condition := right_survey
  revert surveyed
  generalize (earlier.foldl (step condition room) board).step condition room .survey = current
  intro right
  induction later generalizing current with
  | nil => exact right
  | cons instruction rest ih =>
      rw [List.foldl_cons]
      apply ih (fun account among => loud account (List.mem_cons_of_mem _ among))
      apply right_step right
      intro account same
      exact loud account (same ▸ List.mem_cons_self)

end Board

end InventoryManagement.Alarms
