import InventoryManagement.Json
import Mathlib.Data.List.Sort

/-! The key that `cache_response` derives from a prefix and the keyword arguments of a
call. -/

set_option autoImplicit false

namespace InventoryManagement.Cache

open Json (Scalar dumps)

/-- `_EXCLUDED_KWARGS`. -/
def EXCLUDED_KWARGS : List String := ["db", "redis", "current_user"]

inductive Argument where
  | scalar (value : Scalar)
  | injected (object : Nat)
deriving DecidableEq

/-- The dictionary `kwargs`. The value of `redis` is a client or `None`. -/
structure Keywords where
  items : List (String × Argument)
  distinct : (items.map Prod.fst).Nodup
  scalars : ∀ item ∈ items, item.1 ∉ EXCLUDED_KWARGS → ∃ value, item.2 = .scalar value
  client : ∀ item ∈ items, item.1 = "redis" → ∀ value, item.2 = .scalar value → value = .null

namespace Keywords

variable {kwargs other : Keywords} {item : String × Scalar}

def get (kwargs : Keywords) (key : String) : Option Argument := kwargs.items.lookup key

/-- Whether `kwargs.get("redis")` is a client. -/
def hasRedis (kwargs : Keywords) : Bool :=
  match kwargs.get "redis" with
  | some (.injected _) => true
  | some (.scalar _) | none => false

/-- One item of the comprehension `relevant`. -/
def relevant? : String × Argument → Option (String × Scalar)
  | (key, .scalar value) => if key ∈ EXCLUDED_KWARGS then none else some (key, value)
  | (_, .injected _) => none

def relevant (kwargs : Keywords) : List (String × Scalar) := kwargs.items.filterMap relevant?

/-- Equal as dictionaries, less the injected arguments. -/
def Agree (kwargs other : Keywords) : Prop :=
  ∀ key, key ∉ EXCLUDED_KWARGS → kwargs.get key = other.get key

private theorem lookup_eq_some {items : List (String × Argument)} {key : String} {argument : Argument}
    (distinct : (items.map Prod.fst).Nodup) :
    items.lookup key = some argument ↔ (key, argument) ∈ items := by
  induction items with
  | nil => simp
  | cons head rest ih =>
      obtain ⟨name, value⟩ := head
      rw [List.map_cons, List.nodup_cons] at distinct
      rw [List.lookup_cons, List.mem_cons, Prod.mk.injEq]
      by_cases same : key = name
      · subst same
        have fresh : (key, argument) ∉ rest :=
          fun member => distinct.1 (List.mem_map.mpr ⟨(key, argument), member, rfl⟩)
        simp [fresh, eq_comm]
      · rw [beq_false_of_ne same]
        simpa [same] using ih distinct.2

theorem get_eq_some {key : String} {argument : Argument} :
    kwargs.get key = some argument ↔ (key, argument) ∈ kwargs.items := lookup_eq_some kwargs.distinct

theorem mem_relevant :
    item ∈ kwargs.relevant ↔ item.1 ∉ EXCLUDED_KWARGS ∧ kwargs.get item.1 = some (.scalar item.2) := by
  obtain ⟨key, value⟩ := item
  rw [relevant, List.mem_filterMap, get_eq_some]
  constructor
  · intro found
    obtain ⟨⟨name, argument⟩, member, kept⟩ := found
    cases argument with
    | injected => cases kept
    | scalar held =>
        rw [relevant?, Option.ite_none_left_eq_some, Option.some.injEq, Prod.mk.injEq] at kept
        obtain ⟨allowed, rfl, rfl⟩ := kept
        exact ⟨allowed, member⟩
  · intro holds
    refine ⟨(key, .scalar value), holds.2, ?_⟩
    rw [relevant?, if_neg holds.1]

theorem get_scalar {key : String} {argument : Argument} (allowed : key ∉ EXCLUDED_KWARGS)
    (found : kwargs.get key = some argument) : ∃ value, argument = .scalar value :=
  kwargs.scalars (key, argument) (get_eq_some.mp found) allowed

/-- What the code keeps are the non-injected arguments. -/
theorem agree_iff : kwargs.Agree other ↔ ∀ item, item ∈ kwargs.relevant ↔ item ∈ other.relevant := by
  constructor
  · intro agree item
    rw [mem_relevant, mem_relevant]
    constructor
    · intro holds
      exact ⟨holds.1, (agree _ holds.1).symm.trans holds.2⟩
    · intro holds
      exact ⟨holds.1, (agree _ holds.1).trans holds.2⟩
  · intro same key allowed
    have carried : ∀ {first second : Keywords},
        (∀ item, item ∈ first.relevant → item ∈ second.relevant) →
          ∀ argument, first.get key = some argument → second.get key = some argument := by
      intro first second included argument found
      obtain ⟨value, rfl⟩ := get_scalar allowed found
      exact (mem_relevant.mp (included (key, value) (mem_relevant.mpr ⟨allowed, found⟩))).2
    apply Option.ext
    intro argument
    exact ⟨carried (fun item => (same item).mp) argument, carried (fun item => (same item).mpr) argument⟩

/-- The items that `json.dumps` writes with `sort_keys`. -/
def sorted (kwargs : Keywords) : List (String × Scalar) :=
  kwargs.relevant.insertionSort (fun left right => left.1 ≤ right.1)

def serialized (kwargs : Keywords) : String := dumps kwargs.sorted

theorem mem_sorted : item ∈ kwargs.sorted ↔ item ∈ kwargs.relevant :=
  (List.perm_insertionSort _ _).mem_iff

theorem agree_of_serialized (same : kwargs.serialized = other.serialized) : kwargs.Agree other := by
  have items : kwargs.sorted = other.sorted := Json.dumps_injective same
  rw [agree_iff]
  intro item
  rw [← mem_sorted, items, mem_sorted]

theorem agree_of_nil (none : kwargs.relevant = []) (noneToo : other.relevant = []) :
    kwargs.Agree other := by
  rw [agree_iff, none, noneToo]
  exact fun _ => Iff.rfl

end Keywords

/-! The digest. -/

def isHexDigit (char : Char) : Bool := char.isDigit || ('a' ≤ char && char ≤ 'f')

/-- The sixteen hexadecimal digits that the key ends with. -/
def IsDigest (text : List Char) : Prop := text.length = 16 ∧ ∀ char ∈ text, isHexDigit char = true

/-- `hashlib.sha256`, of the UTF-8 of a text. -/
structure Sha256 where
  hexdigest : String → List Char
  length : ∀ text, (hexdigest text).length = 64
  hexadecimal : ∀ text, ∀ char ∈ hexdigest text, isHexDigit char = true

/-- `hexdigest()[:16]`. -/
def Sha256.digest (sha256 : Sha256) (text : String) : List Char := (sha256.hexdigest text).take 16

theorem Sha256.isDigest (sha256 : Sha256) (text : String) : IsDigest (sha256.digest text) := by
  constructor
  · rw [digest, List.length_take, sha256.length]
    rfl
  · intro char member
    exact sha256.hexadecimal text char (List.mem_of_mem_take member)

/-- `_build_cache_key`. -/
def buildCacheKey (sha256 : Sha256) (keyPrefix : String) (kwargs : Keywords) : String :=
  if kwargs.relevant = [] then "cache:" ++ keyPrefix
  else "cache:" ++ keyPrefix ++ ":" ++ String.ofList (sha256.digest kwargs.serialized)

section Keys

variable {sha256 : Sha256} {left right : String} {kwargs other : Keywords}

/-- What follows `cache:` in a key. -/
theorem buildCacheKey_toList : (buildCacheKey sha256 left kwargs).toList = "cache:".toList ++
    (left.toList ++ if kwargs.relevant = [] then [] else ':' :: sha256.digest kwargs.serialized) := by
  rw [buildCacheKey]
  split
  · rw [String.toList_append, List.append_nil]
  · simp only [String.toList_append, String.toList_ofList, List.append_assoc]
    rfl

/-- Keys are equal only for one prefix and equal arguments. -/
theorem agree_of_key (apart : ∀ digits, IsDigest digits → left.toList ≠ right.toList ++ ':' :: digits)
    (apartToo : ∀ digits, IsDigest digits → right.toList ≠ left.toList ++ ':' :: digits)
    (injective : kwargs.relevant ≠ [] → other.relevant ≠ [] →
      sha256.digest kwargs.serialized = sha256.digest other.serialized →
        kwargs.serialized = other.serialized)
    (same : buildCacheKey sha256 left kwargs = buildCacheKey sha256 right other) :
    left = right ∧ kwargs.Agree other := by
  have texts := congrArg String.toList same
  rw [buildCacheKey_toList, buildCacheKey_toList, List.append_cancel_left_eq] at texts
  have digest := sha256.isDigest kwargs.serialized
  have digestToo := sha256.isDigest other.serialized
  by_cases none : kwargs.relevant = []
  · by_cases noneToo : other.relevant = []
    · rw [if_pos none, if_pos noneToo, List.append_nil, List.append_nil] at texts
      exact ⟨String.toList_inj.mp texts, Keywords.agree_of_nil none noneToo⟩
    · rw [if_pos none, if_neg noneToo, List.append_nil] at texts
      exact absurd texts (apart _ digestToo)
  · by_cases noneToo : other.relevant = []
    · rw [if_neg none, if_pos noneToo, List.append_nil] at texts
      exact absurd texts.symm (apartToo _ digest)
    · rw [if_neg none, if_neg noneToo] at texts
      obtain ⟨prefixes, digests⟩ := List.append_inj' texts (by
        rw [List.length_cons, List.length_cons, digest.1, digestToo.1])
      exact ⟨String.toList_inj.mp prefixes,
        Keywords.agree_of_serialized (injective none noneToo (List.tail_eq_of_cons_eq digests))⟩

end Keys

end InventoryManagement.Cache
