import InventoryManagement.Paging
import InventoryManagement.Sql
import Mathlib.Data.List.Sort

/-! Pages of a sorted listing, when every query may order the rows with one key as it
likes: which tables they cover completely, and in order. -/

set_option autoImplicit false

namespace InventoryManagement.Paging

variable {Row Key : Type} {size fuel skip : Nat} {listing : Nat → List Row} {rows : List Row}

theorem mem_page_iff {row : Row} : row ∈ page size listing skip ↔
    ∃ position, skip ≤ position ∧ position < skip + size ∧ (listing skip)[position]? = some row := by
  rw [page, List.mem_iff_getElem?]
  simp only [List.getElem?_take, List.getElem?_drop]
  constructor
  · rintro ⟨index, found⟩
    split at found
    · exact ⟨skip + index, by omega, by omega, found⟩
    · cases found
  · rintro ⟨position, low, high, found⟩
    refine ⟨position - skip, ?_⟩
    rw [if_pos (by omega), Nat.add_sub_cancel' low]
    exact found

theorem pages_eq_flatMap : pages size listing fuel skip =
    (List.range fuel).flatMap (fun number => page size listing (skip + number * size)) := by
  induction fuel generalizing skip with
  | zero => rfl
  | succ fuel ih =>
      rw [pages, ih, List.range_succ_eq_map, List.flatMap_cons, List.flatMap_map, Nat.zero_mul,
        Nat.add_zero]
      congr 2
      funext number
      rw [Nat.succ_mul, Nat.add_comm (number * size), Nat.add_assoc]

/-- In a list whose items meet a condition first, an item meets it if and only if its
position is below their number. -/
theorem position_lt_countP_iff {items : List Row} {condition : Row → Bool}
    (first : items.Pairwise (fun item later => condition later → condition item))
    {position : Nat} {item : Row} (found : items[position]? = some item) :
    position < items.countP condition ↔ condition item := by
  induction items generalizing position with
  | nil => cases found
  | cons head rest ih =>
      obtain ⟨here, later⟩ := List.pairwise_cons.mp first
      by_cases meets : condition head
      · rw [List.countP_cons_of_pos meets]
        cases position with
        | zero =>
            cases found
            exact iff_of_true (Nat.succ_pos _) meets
        | succ position => rw [Nat.succ_lt_succ_iff, ih later found]
      · have none : ∀ item ∈ rest, ¬ condition item := fun item listed met =>
          meets (here item listed met)
        rw [List.countP_cons_of_neg meets, List.countP_eq_zero.mpr none]
        refine iff_of_false (Nat.not_lt_zero _) ?_
        rcases List.mem_cons.mp (List.mem_of_getElem? found) with rfl | listed
        · exact meets
        · exact none item listed

section Sorted

variable [LinearOrder Key] {key : Row → Key}

/-- The number of rows that come before those with a key. -/
def before (key : Row → Key) (rows : List Row) (value : Key) : Nat :=
  rows.countP (fun row => decide (value < key row))

/-- The number of rows that come before those with a smaller key. -/
def through (key : Row → Key) (rows : List Row) (value : Key) : Nat :=
  rows.countP (fun row => decide (value ≤ key row))

/-- No page ends between two rows with one key. -/
def Uncut (key : Row → Key) (size : Nat) (rows : List Row) : Prop :=
  ∀ number value, number * size ≤ before key rows value ∨ through key rows value ≤ number * size

structure Listed (key : Row → Key) (rows listing : List Row) : Prop where
  perm : listing.Perm rows
  sorted : listing.Pairwise (Sql.descending key)

variable {items : List Row} {position : Nat} {row : Row} {value : Key}

theorem Listed.lt_before_iff (listed : Listed key rows items) (found : items[position]? = some row) :
    position < before key rows value ↔ value < key row := by
  rw [before, ← listed.perm.countP_eq, position_lt_countP_iff _ found, decide_eq_true_iff]
  refine listed.sorted.imp ?_
  intro first second ordered above
  exact decide_eq_true (lt_of_lt_of_le (of_decide_eq_true above) ordered)

theorem Listed.lt_through_iff (listed : Listed key rows items) (found : items[position]? = some row) :
    position < through key rows value ↔ value ≤ key row := by
  rw [through, ← listed.perm.countP_eq, position_lt_countP_iff _ found, decide_eq_true_iff]
  refine listed.sorted.imp ?_
  intro first second ordered above
  exact decide_eq_true (le_trans (of_decide_eq_true above) ordered)

/-! What a later page shows does not come before what an earlier one showed. -/

theorem later_page_descends (listed : ∀ skip, Listed key rows (listing skip)) {later : Nat}
    (apart : skip + size ≤ later) {other : Row} (shown : row ∈ page size listing skip)
    (shownLater : other ∈ page size listing later) : Sql.descending key row other := by
  obtain ⟨position, _, high, found⟩ := mem_page_iff.mp shown
  obtain ⟨positionLater, low, _, foundLater⟩ := mem_page_iff.mp shownLater
  by_contra above
  rw [Sql.descending, not_le] at above
  have here : ¬ position < before key rows (key row) :=
    ((listed skip).lt_before_iff found).not.mpr (lt_irrefl _)
  have there : positionLater < before key rows (key row) :=
    ((listed later).lt_before_iff foundLater).mpr above
  omega

theorem pages_sorted (listed : ∀ skip, Listed key rows (listing skip)) :
    (pages size listing fuel skip).Pairwise (Sql.descending key) := by
  induction fuel generalizing skip with
  | zero => exact List.Pairwise.nil
  | succ fuel ih =>
      rw [pages, List.pairwise_append]
      refine ⟨?_, ih, ?_⟩
      · exact (listed skip).sorted.sublist ((List.take_sublist _ _).trans (List.drop_sublist _ _))
      · intro row shown other shownLater
        obtain ⟨number, _, shownLater⟩ := mem_pages.mp shownLater
        exact later_page_descends listed (Nat.le_add_right _ _) shown shownLater

/-- A row that is on two pages has a key that a page ends within. -/
theorem disjoint_of_uncut (listed : ∀ skip, Listed key rows (listing skip))
    (uncut : Uncut key size rows) (first second : Nat) (ordered : first < second) :
    List.Disjoint (page size listing (first * size)) (page size listing (second * size)) := by
  intro row here there
  obtain ⟨position, _, high, found⟩ := mem_page_iff.mp here
  obtain ⟨positionLater, low, _, foundLater⟩ := mem_page_iff.mp there
  have notBefore : ¬ position < before key rows (key row) :=
    ((listed _).lt_before_iff found).not.mpr (lt_irrefl _)
  have within : positionLater < through key rows (key row) :=
    ((listed _).lt_through_iff foundLater).mpr (le_refl _)
  have boundary : (first + 1) * size ≤ second * size := Nat.mul_le_mul_right size ordered
  rw [Nat.succ_mul] at boundary
  have whole := uncut (first + 1) (key row)
  rw [Nat.succ_mul] at whole
  omega

/-! Where a page ends between two rows with one key, the next query may exchange them. -/

theorem Listed.exchange {ahead behind : List Row} {left right : Row}
    (listed : Listed key rows (ahead ++ left :: right :: behind)) (same : key left = key right) :
    Listed key rows (ahead ++ right :: left :: behind) where
  perm := ((List.Perm.swap left right behind).append_left ahead).trans listed.perm
  sorted := by
    have sorted := listed.sorted
    simp only [List.pairwise_append, List.pairwise_cons, List.mem_cons, forall_eq_or_imp,
      Sql.descending, same] at sorted ⊢
    refine ⟨sorted.1, ⟨⟨le_refl _, sorted.2.1.2.1⟩, sorted.2.1.2.1, sorted.2.1.2.2⟩, ?_⟩
    intro row member
    have later := sorted.2.2 row member
    exact ⟨later.1, later.1, later.2.2⟩

theorem exists_repeating (listed : Listed key rows items) (positive : 0 < size) {number : Nat}
    (low : before key rows value < (number + 1) * size)
    (high : (number + 1) * size < through key rows value) :
    ∃ other, Listed key rows other ∧ ∃ row, row ∈ page size (fun _ => items) (number * size) ∧
      row ∈ page size (fun _ => other) ((number + 1) * size) := by
  rw [Nat.succ_mul] at low high ⊢
  let last := number * size + size - 1
  have inside : last + 1 < items.length := by
    have bound : through key rows value ≤ items.length := by
      rw [through, ← listed.perm.countP_eq]
      exact List.countP_le_length
    omega
  have tied : ∀ position, last ≤ position → position ≤ last + 1 → ∀ row,
      items[position]? = some row → key row = value := by
    intro position least most row found
    have reached : ¬ value < key row :=
      (listed.lt_before_iff found).not.mp (by omega)
    have kept : value ≤ key row := (listed.lt_through_iff found).mp (by omega)
    exact le_antisymm (not_lt.mp reached) kept
  have left := List.getElem?_eq_getElem (Nat.lt_of_succ_lt inside)
  have right := List.getElem?_eq_getElem inside
  have parts : items.take last ++ items[last] :: items[last + 1] :: items.drop (last + 1 + 1) =
      items := by
    rw [← List.drop_eq_getElem_cons inside, ← List.drop_eq_getElem_cons, List.take_append_drop]
  have same : key items[last] = key items[last + 1] :=
    (tied last (Nat.le_refl _) (Nat.le_succ _) _ left).trans
      (tied (last + 1) (Nat.le_succ _) (Nat.le_refl _) _ right).symm
  refine ⟨_, Listed.exchange (parts.symm ▸ listed) same, items[last], ?_, ?_⟩
  · exact mem_page_iff.mpr ⟨last, by omega, by omega, left⟩
  · refine mem_page_iff.mpr ⟨last + 1, by omega, by omega, ?_⟩
    rw [List.getElem?_append_right (by simp), List.length_take, Nat.min_eq_left (by omega)]
    simp

section Complete

variable (unique : rows.Nodup) (positive : 0 < size)

include unique positive

/-- Whatever each query makes of equal keys, the pages list every row once and in order,
if and only if no page ends between two rows with one key. -/
theorem listed_pages_iff :
    (∀ listing : Nat → List Row, (∀ skip, Listed key rows (listing skip)) → ∀ fuel,
      rows.length ≤ fuel * size → Listed key rows (pages size listing fuel 0)) ↔
        Uncut key size rows := by
  constructor
  · intro always
    by_contra cut
    simp only [Uncut, not_forall, not_or, not_le] at cut
    obtain ⟨number, value, low, high⟩ := cut
    obtain ⟨number, rfl⟩ := Nat.exists_eq_succ_of_ne_zero (n := number) (by
      rintro rfl
      rw [Nat.zero_mul] at low
      omega)
    let items := (Sql.Order.byKey key).arrange rows
    have sorted : Listed key rows items :=
      ⟨(Sql.Order.byKey key).perm rows, (Sql.Order.byKey key).sorted rows⟩
    obtain ⟨other, listed, row, here, there⟩ := exists_repeating sorted positive low high
    let listing : Nat → List Row := fun skip => if skip = (number + 1) * size then other else items
    have listings : ∀ skip, Listed key rows (listing skip) := by
      intro skip
      by_cases boundary : skip = (number + 1) * size
      · simpa only [listing, if_pos boundary] using listed
      · simpa only [listing, if_neg boundary] using sorted
    have enough : rows.length ≤ rows.length * size := Nat.le_mul_of_pos_right _ positive
    have once := (always listing listings _ enough).perm.nodup_iff.mpr unique
    have apart := (pages_nodup_iff_disjoint (fun skip => (listings skip).perm) unique enough).mp once
    have atEnd : listing ((number + 1) * size) = other := if_pos rfl
    have elsewhere : listing (number * size) = items := by
      apply if_neg
      rw [Nat.succ_mul]
      omega
    apply apart number (number + 1) (Nat.lt_succ_self _)
    · rwa [page, elsewhere]
    · rwa [page, atEnd]
  · intro uncut listing listed fuel enough
    refine ⟨?_, pages_sorted listed⟩
    rw [pages_perm_iff_nodup (fun skip => (listed skip).perm) unique enough,
      pages_nodup_iff_disjoint (fun skip => (listed skip).perm) unique enough]
    exact disjoint_of_uncut listed uncut

/-- Without an order of its own, a table is listed in order only if it has none to keep,
and only on one page. -/
theorem unordered_pages_iff :
    (∀ listing : Nat → List Row, (∀ skip, (listing skip).Perm rows) → ∀ fuel,
      rows.length ≤ fuel * size → Listed key rows (pages size listing fuel 0)) ↔
        rows.length ≤ size ∧ ∀ row ∈ rows, ∀ other ∈ rows, key row = key other := by
  constructor
  · intro always
    constructor
    · -- as if all rows had one key
      have uncut : Uncut (fun _ : Row => 0) size rows := by
        rw [← listed_pages_iff unique positive]
        intro listing listed fuel enough
        have complete := always listing (fun skip => (listed skip).perm) fuel enough
        exact ⟨complete.perm, List.pairwise_of_forall (fun _ _ => le_refl _)⟩
      have none : before (fun _ : Row => 0) rows 0 = 0 := List.countP_eq_zero.mpr (by simp)
      have all : through (fun _ : Row => 0) rows 0 = rows.length :=
        List.countP_eq_length.mpr (by simp)
      have first := uncut 1 0
      rw [none, all, Nat.one_mul] at first
      omega
    · have leads : ∀ row ∈ rows, ∀ other ∈ rows, key other ≤ key row := by
        classical
        intro row stored other storedToo
        by_cases same : other = row
        · rw [same]
        · have perm : (row :: rows.erase row).Perm rows := (List.perm_cons_erase stored).symm
          have enough : rows.length ≤ rows.length * size := Nat.le_mul_of_pos_right _ positive
          have sorted := (always (fun _ => row :: rows.erase row) (fun _ => perm) _ enough).sorted
          rw [pages_fixed, List.drop_zero, List.take_of_length_le (by rwa [perm.length_eq]),
            List.pairwise_cons] at sorted
          exact sorted.1 other ((List.mem_erase_of_ne same).mpr storedToo)
      intro row stored other storedToo
      exact le_antisymm (leads other storedToo row stored) (leads row stored other storedToo)
  · rintro ⟨single, equal⟩ listing perm
    have listed : ∀ skip, Listed key rows (listing skip) := by
      intro skip
      refine ⟨perm skip, List.pairwise_of_forall_mem_list ?_⟩
      intro row shown other shownToo
      have stored := (perm skip).mem_iff.mp shown
      exact le_of_eq (equal other ((perm skip).mem_iff.mp shownToo) row stored)
    refine (listed_pages_iff unique positive).mpr ?_ listing listed
    intro number value
    cases number with
    | zero => exact .inl (by rw [Nat.zero_mul]; exact Nat.zero_le _)
    | succ number =>
        have bound : through key rows value ≤ rows.length := List.countP_le_length
        rw [Nat.succ_mul]
        exact .inr (by omega)

end Complete

end Sorted

end InventoryManagement.Paging
