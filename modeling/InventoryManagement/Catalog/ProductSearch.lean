import InventoryManagement.Like
import InventoryManagement.Sql
import InventoryManagement.Catalog.Discipline

/-! The product lists, and when the search by name is a search for a substring. -/

set_option autoImplicit false

namespace InventoryManagement.Catalog

open Like (CaseFolding)

abbrev ProductOrder := Sql.Order Product Sql.unordered

namespace ProductRepository

def listAll (order : ProductOrder) (skip limit : Nat) (store : Store) : List Product :=
  Sql.select order (fun _ => true) skip limit store.products

def listActive (order : ProductOrder) (skip limit : Nat) (store : Store) : List Product :=
  Sql.select order (·.isActive) skip limit store.products

/-- The pattern `f"%{query}%"`. -/
def searchPattern (query : String) : List Char := '%' :: (query.toList ++ ['%'])

/-- `search_by_name`. The database rejects a pattern it cannot read, and the driver a
text it cannot send. -/
def searchByName (folding : CaseFolding) (order : ProductOrder) (query : String)
    (skip limit : Nat) (store : Store) : Except Exception (List Product) :=
  if Text.sendable query then
    match Like.parse ((searchPattern query).map folding.fold) with
    | none => .error .dataError
    | some tokens => .ok (Sql.select order
        (fun product => Like.accepts tokens (folding.text product.name)) skip limit store.products)
  else .error .dataError

end ProductRepository

namespace ProductService

def listProducts (order : ProductOrder) (activeOnly : Bool) (skip limit : Nat) (store : Store) :
    List Product :=
  if activeOnly then ProductRepository.listActive order skip limit store
  else ProductRepository.listAll order skip limit store

def searchProducts (folding : CaseFolding) (order : ProductOrder) (query : String)
    (skip limit : Nat) (store : Store) : Except Exception (List Product) :=
  ProductRepository.searchByName folding order query skip limit store

end ProductService

/-- The `list_products` endpoint: an empty search counts as none. -/
def listProducts (folding : CaseFolding) (order : ProductOrder) (search : Option String)
    (activeOnly : Bool) (skip limit : Nat) (store : Store) : Except Exception (List Product) :=
  match search with
  | some "" | none => .ok (ProductService.listProducts order activeOnly skip limit store)
  | some query => ProductService.searchProducts folding order query skip limit store

variable {folding : CaseFolding} {query : String} {store : Store} {product : Product}

/-- The name contains the query, character by character, in any case. -/
def Named (folding : CaseFolding) (query : String) (product : Product) : Prop :=
  folding.text query <:+: folding.text product.name

/-- Some page of the search holds the product. -/
def CanReturn (folding : CaseFolding) (query : String) (store : Store) (product : Product) : Prop :=
  ∃ order skip limit page,
    ProductRepository.searchByName folding order query skip limit store = .ok page ∧
      product ∈ page

/-- The search returns the products whose name contains the query, and no others. -/
def SubstringSearch (folding : CaseFolding) (query : String) : Prop :=
  ∀ store : Store, store.Valid → ∀ product,
    CanReturn folding query store product ↔ product ∈ store.products ∧ Named folding query product

/-- No character of the query has a meaning of its own, or no name comes into question:
the query cannot be sent, or asks for more characters than a name has room for. -/
def Literal (query : String) : Prop :=
  Like.Plain query.toList ∨ Text.sendable query = false ∨ 255 < Like.required query.toList

theorem listProducts_search (order : ProductOrder) (activeOnly : Bool) (skip limit : Nat)
    (nonempty : query ≠ "") :
    listProducts folding order (some query) activeOnly skip limit store =
      ProductRepository.searchByName folding order query skip limit store := by
  unfold listProducts
  split
  · rename_i empty
    exact absurd (Option.some.inj empty) nonempty
  · rename_i none
    cases none
  · rename_i given
    cases given
    rfl

/-! What the search returns. -/

theorem name_fits (valid : store.Valid) (stored : product ∈ store.products) :
    product.name.length ≤ 255 ∧ Text.sendable product.name = true := by
  have fits := valid.inRange .product product stored
  simp only [Resource.inRange, Resource.columns, ProductChanges.inRange, Catalog.inRange,
    Option.all_some, Text.fits, Bool.and_eq_true, decide_eq_true_iff] at fits
  exact fits.1.1.2

theorem sendable_iff {text : String} : Text.sendable text = true ↔ Char.ofNat 0 ∉ text.toList := by
  simp [Text.sendable]

theorem canReturn_iff (sendable : Text.sendable query = true) {tokens : List (Like.Token Char)}
    (read : Like.Read query.toList tokens) :
    CanReturn folding query store product ↔ product ∈ store.products ∧
      Like.accepts (.anyText :: tokens.map (Like.Token.map folding.fold))
        (folding.text product.name) := by
  have folded : Like.parse ((ProductRepository.searchPattern query).map folding.fold) =
      some (.anyText :: tokens.map (Like.Token.map folding.fold)) := by
    have closing : folding.fold '%' = '%' := (folding.uncased '%' (by decide) '%').mpr rfl
    rw [ProductRepository.searchPattern, List.map_cons, List.map_append, List.map_singleton,
      closing, Like.parse, (read.map folding).parse]
    rfl
  rw [← Sql.mem_select store.products (fun product : Product => Like.accepts
    (.anyText :: tokens.map (Like.Token.map folding.fold)) (folding.text product.name))]
  simp only [CanReturn, ProductRepository.searchByName, sendable, if_true, folded]
  constructor
  · rintro ⟨order, skip, limit, page, returned, listed⟩
    cases returned
    exact ⟨order, skip, limit, listed⟩
  · rintro ⟨order, skip, limit, listed⟩
    exact ⟨order, skip, limit, _, rfl, listed⟩

theorem not_canReturn_of_unsendable (unsendable : Text.sendable query = false) :
    ¬ CanReturn folding query store product := by
  rintro ⟨order, skip, limit, page, returned, _⟩
  rw [ProductRepository.searchByName, unsendable] at returned
  cases returned

theorem Named.length_le (named : Named folding query product) :
    query.length ≤ product.name.length := by
  have shorter := List.IsInfix.length_le named
  rwa [CaseFolding.text, CaseFolding.text, List.length_map, List.length_map] at shorter

theorem Named.sendable (named : Named folding query product)
    (sendable : Text.sendable product.name = true) : Text.sendable query = true := by
  have none_iff : ∀ value, folding.fold value = Char.ofNat 0 ↔ value = Char.ofNat 0 :=
    folding.uncased (Char.ofNat 0) List.mem_cons_self
  have kept : ∀ text : String, Char.ofNat 0 ∈ folding.text text ↔ Char.ofNat 0 ∈ text.toList := by
    intro text
    simp only [CaseFolding.text, List.mem_map, none_iff, exists_eq_right]
  rw [sendable_iff, ← kept] at sendable ⊢
  exact fun listed => sendable (named.subset listed)

theorem accepts_plain {tokens : List (Like.Token Char)} (plain : Like.Plain query.toList)
    (read : Like.Read query.toList tokens) :
    Like.accepts (.anyText :: tokens.map (Like.Token.map folding.fold))
      (folding.text product.name) ↔ Named folding query product := by
  have letters : tokens.map (Like.Token.map folding.fold) =
      (folding.text query).map .letter ++ [.anyText] := by
    rw [read.tokens_of_plain plain, List.map_append, List.map_map, CaseFolding.text, List.map_map]
    rfl
  rw [letters, Like.accepts_infix, Named]

def named (name : String) : Product where
  id := ⟨1⟩
  sku := "WID-001"
  name := name
  price := 1999

theorem named_valid {name : String} (length : name.length ≤ 255)
    (sendable : Text.sendable name = true) :
    ({ products := [named name] } : Store).Valid where
  unique := by
    intro resource
    cases resource with
    | product => exact ⟨List.nodup_singleton _, List.nodup_singleton _⟩
    | warehouse => exact ⟨List.nodup_nil, List.nodup_nil⟩
  inRange := by
    intro resource row stored
    cases resource with
    | warehouse => cases stored
    | product =>
        rw [List.mem_singleton.mp stored]
        have fits : Text.fits 255 name = true := by simp [Text.fits, length, sendable]
        simp only [Resource.inRange, Resource.columns, ProductChanges.inRange, Catalog.inRange,
          named, Option.all_some, fits]
        decide +kernel

/-- A query that is not literal finds a name that does not contain it. -/
theorem found_without_name (folding : CaseFolding) (wild : ¬ Literal query) :
    ∃ store : Store, store.Valid ∧ ∃ product,
      CanReturn folding query store product ∧ ¬ Named folding query product := by
  rw [Literal, not_or, not_or, Bool.not_eq_false] at wild
  obtain ⟨special, sendable, room⟩ := wild
  obtain ⟨tokens, read⟩ := Like.exists_read query.toList
  let name := String.ofList (Like.least 'x' tokens)
  have letters : name.toList = Like.least 'x' tokens := String.toList_ofList
  have folded : folding.text name =
      Like.least (folding.fold 'x') (tokens.map (Like.Token.map folding.fold)) := by
    rw [CaseFolding.text, letters, Like.least_map]
  have short : name.length ≤ 255 := by
    rw [← String.length_toList, letters, read.least_required]
    omega
  have sent : Text.sendable name = true := by
    rw [sendable_iff] at sendable ⊢
    rw [letters]
    intro listed
    rcases read.mem_least _ listed with filler | closing | typed
    · exact absurd filler (by decide)
    · exact absurd closing (by decide)
    · exact sendable typed
  refine ⟨_, named_valid short sent, named name, ?_, ?_⟩
  · rw [canReturn_iff sendable read]
    refine ⟨List.mem_singleton_self _, ?_⟩
    rw [named, folded]
    exact Like.accepts_anyText.mpr ⟨_, List.suffix_rfl, Like.accepts_least _⟩
  · rw [Named, named, folded]
    apply (read.map folding).not_infix_least
    · intro same
      exact absurd ((folding.uncased '_' (by decide) 'x').mp same) (by decide)
    · rwa [folding.plain_iff]

/-- The search by name is a search for a substring exactly for the literal queries. -/
theorem substring_search_iff (folding : CaseFolding) (query : String) :
    SubstringSearch folding query ↔ Literal query := by
  constructor
  · intro exact
    by_contra wild
    obtain ⟨store, valid, product, returned, different⟩ := found_without_name folding wild
    exact different ((exact store valid product).mp returned).2
  · intro literal store valid product
    obtain ⟨tokens, read⟩ := Like.exists_read query.toList
    by_cases sendable : Text.sendable query = true
    · rw [canReturn_iff sendable read, and_congr_right_iff]
      intro stored
      rcases literal with plain | unsendable | long
      · exact accepts_plain plain read
      · rw [sendable] at unsendable
        cases unsendable
      · have short := (name_fits valid stored).1
        constructor
        · intro matched
          have least := Like.least_le (folding.fold 'x') matched
          rw [Like.least, Like.least_map, List.length_map, read.least_required,
            CaseFolding.text, List.length_map, String.length_toList] at least
          omega
        · intro named
          have length := named.length_le
          have least := read.least_length_le 'x'
          rw [read.least_required, String.length_toList] at least
          omega
    · rw [Bool.not_eq_true] at sendable
      refine iff_of_false (not_canReturn_of_unsendable sendable) ?_
      rintro ⟨stored, named⟩
      rw [named.sendable (name_fits valid stored).2] at sendable
      cases sendable

/-! A search for the products with "100%" in their name. -/

theorem Sample.toLower_iff {mark : Char}
    (uncased : mark.toNat < 65 ∨ 90 < mark.toNat ∧ mark.toNat < 97) (value : Char) :
    value.toLower = mark ↔ value = mark := by
  unfold Char.toLower
  split
  · rename_i upper
    have bounds : 65 ≤ value.toNat ∧ value.toNat ≤ 90 := upper
    have lower : (value.val + ('a'.val - 'A'.val)).toNat = value.toNat + 32 := by
      rw [UInt32.toNat_add]
      change (value.toNat + 32) % 2 ^ 32 = _
      omega
    constructor
    · intro same
      have equal : value.toNat + 32 = mark.toNat := lower.symm.trans (congrArg Char.toNat same)
      omega
    · intro same
      rw [same] at bounds
      omega
  · rfl

def Sample.ascii : CaseFolding where
  fold := Char.toLower
  uncased := by
    intro mark listed
    apply Sample.toLower_iff
    simp only [Like.special, List.mem_cons, List.not_mem_nil, or_false] at listed
    rcases listed with rfl | rfl | rfl | rfl <;> decide

/-- "1000 Screws" is found as well. -/
theorem percent_finds_other_names :
    ¬ ∀ (folding : CaseFolding) (query : String), query ≠ "" → SubstringSearch folding query := by
  intro always
  have valid : ({ products := [named "1000 Screws"] } : Store).Valid :=
    named_valid (by decide) (by decide)
  have exact := always Sample.ascii "100%" (by decide) _ valid (named "1000 Screws")
  have read : Like.Read "100%".toList
      [.letter '1', .letter '0', .letter '0', .anyText, .anyText] :=
    .plain (by decide) (.plain (by decide) (.plain (by decide) (.anyText .closing)))
  have returned : CanReturn Sample.ascii "100%" { products := [named "1000 Screws"] }
      (named "1000 Screws") := by
    rw [canReturn_iff (by decide) read]
    exact ⟨List.mem_singleton_self _, by decide⟩
  have different : ¬ Named Sample.ascii "100%" (named "1000 Screws") := by
    unfold Named
    decide
  exact different (exact.mp returned).2

end InventoryManagement.Catalog
