import InventoryManagement.Email
import InventoryManagement.Sql
import InventoryManagement.Services.Requests

/-! The task that emails an alert to the active superusers, and which alerts it can. -/

set_option autoImplicit false

namespace InventoryManagement

structure User where
  email : String
  isActive : Bool := true
  isSuperuser : Bool := false
deriving DecidableEq

def User.isActiveSuperuser (user : User) : Bool := user.isSuperuser && user.isActive

/-- `UserRepository.list_active_superusers`; the order is the database's. -/
def listActiveSuperusers (order : Sql.Order User Sql.unordered) (users : List User) : List User :=
  order.arrange (users.filter User.isActiveSuperuser)

def AlertType.value : AlertType → String
  | .LOW_STOCK => "low_stock"
  | .OUT_OF_STOCK => "out_of_stock"

def buildSubject (alert : Alert) (productName : String) : String :=
  let label := if alert.alertType = .OUT_OF_STOCK then "OUT OF STOCK" else "Low Stock"
  s!"[Inventory Alert] {label}: {productName}"

/-- `isoformat` is the text of a timestamp. -/
def buildBody (isoformat : Nat → String) (alert : Alert) (productName warehouseName : String) :
    String :=
  s!"Product: {productName}\nWarehouse: {warehouseName}\n" ++
    s!"Alert type: {alert.alertType.value}\nCurrent quantity: {alert.quantityAtTrigger}\n" ++
    s!"Threshold: {alert.threshold}\nTriggered at: {isoformat alert.createdAt}\n"

/-- `get_by_id_or_raise`. -/
def foundOrRaise {Entity : Type} (model id : String) : Option Entity → Except TaskError Entity
  | some entity => .ok entity
  | none => .error (.application (.notFoundError s!"{model} with id '{id}' was not found."))

/-- What the task reads, and what it is deployed with. -/
structure EmailSetting (Header : Type) where
  tables : Tables
  users : List User
  order : Sql.Order User Sql.unordered
  smtp : SmtpSettings := {}
  server : SmtpServer
  isoformat : Nat → String
  mail : MailLibrary Header

section Task

variable {Header : Type}

def EmailSetting.recipients (setting : EmailSetting Header) : List String :=
  (listActiveSuperusers setting.order setting.users).map (·.email)

/-- `_send_low_stock_alert_email`. -/
def sendLowStockAlertEmail (setting : EmailSetting Header) (alertId : RowId) :
    Except TaskError (List Delivery) := do
  let alert ← foundOrRaise "Alert" (toString alertId) (setting.tables.alert? alertId)
  let product ← foundOrRaise "Product" alert.productId.str (setting.tables.product? alert.productId)
  let warehouse ← foundOrRaise "Warehouse" alert.warehouseId.str
    (setting.tables.warehouse? alert.warehouseId)
  if setting.recipients = [] then return []
  let subject := buildSubject alert product.name
  let body := buildBody setting.isoformat alert product.name warehouse.name
  sendEmail setting.mail setting.smtp setting.server setting.recipients subject body

/-- The task returns, and has handed over one message, to the active superusers. -/
def Emailed (setting : EmailSetting Header) (alertId : RowId) : Prop :=
  ∃ delivery, sendLowStockAlertEmail setting alertId = .ok [delivery] ∧
    delivery.toAddrs.Perm ((setting.users.filter User.isActiveSuperuser).map (·.email))

/-- The name is plain, or the library can write the subject it gives: a break ends it, or it
opens an encoded word. -/
def MailableName (mail : MailLibrary Header) (utf8 : Bool) (alert : Alert) (name : String) :
    Prop :=
  PlainText name ∨ SingleLine name ∧ mail.Writes utf8 "Subject" (buildSubject alert name)

/-- The configured sender and the superusers can be addressed, the addresses read back from
the list they are joined to, and the product's name can be mailed to them. -/
def Mailable (setting : EmailSetting Header) (alert : Alert) (product : Product) : Prop :=
  ∃ (addressing : Addressing Header) (utf8 : Bool) (fromAddr : String),
    addressing.Works setting.mail setting.smtp setting.server setting.recipients utf8 fromAddr ∧
    (setting.mail.getaddresses addressing.receiver).Perm setting.recipients ∧
    MailableName setting.mail utf8 alert product.name

theorem buildSubject_eq (alert : Alert) (name : String) : ∃ lead : String,
    buildSubject alert name = lead ++ name ∧
      Unbroken lead ∧ '=' ∉ lead.toList := by
  have labels : ∀ label ∈ ["OUT OF STOCK", "Low Stock"],
      Unbroken ("[Inventory Alert] " ++ label ++ ": ") ∧
        '=' ∉ ("[Inventory Alert] " ++ label ++ ": ").toList := by
    rw [List.forall_mem_cons, List.forall_mem_singleton]
    exact ⟨⟨by decide, by decide⟩, by decide, by decide⟩
  refine ⟨_, rfl, labels _ ?_⟩
  split
  · exact List.mem_cons_self
  · exact List.mem_cons_of_mem _ List.mem_cons_self

theorem singleLine_buildSubject (alert : Alert) (name : String) :
    SingleLine (buildSubject alert name) ↔ SingleLine name := by
  obtain ⟨lead, subject, unbroken, _⟩ := buildSubject_eq alert name
  rw [subject, singleLine_append unbroken]

theorem PlainText.subject {name : String} (plain : PlainText name) (alert : Alert) :
    PlainText (buildSubject alert name) := by
  obtain ⟨lead, subject, unbroken, unencoded⟩ := buildSubject_eq alert name
  rw [subject, PlainText, String.toList_append, opensEncodedWord_append unencoded]
  exact ⟨unbroken_append.mpr ⟨unbroken, plain.1⟩, plain.2⟩

theorem mailableName_iff {mail : MailLibrary Header} (writes : mail.WritesPlain) (utf8 : Bool)
    (alert : Alert) (name : String) :
    MailableName mail utf8 alert name ↔ SingleLine (buildSubject alert name) ∧
      mail.Writes utf8 "Subject" (buildSubject alert name) := by
  rw [singleLine_buildSubject]
  constructor
  · rintro (plain | written)
    · exact ⟨plain.singleLine, writes utf8 _ (plain.subject alert)⟩
    · exact written
  · exact Or.inr

variable {setting : EmailSetting Header} {alert : Alert} {product : Product}
  {warehouse : Warehouse}

theorem recipients_perm (setting : EmailSetting Header) : setting.recipients.Perm
    ((setting.users.filter User.isActiveSuperuser).map (·.email)) :=
  (setting.order.perm _).map _

theorem recipients_ne_nil (someone : ∃ user ∈ setting.users, user.isActiveSuperuser) :
    setting.recipients ≠ [] := by
  obtain ⟨user, member, active⟩ := someone
  intro none
  have listed : user.email ∈ setting.recipients :=
    (recipients_perm setting).mem_iff.mpr
      (List.mem_map_of_mem (List.mem_filter.mpr ⟨member, active⟩))
  rw [none] at listed
  cases listed

theorem sendLowStockAlertEmail_eq {alertId : RowId}
    (stored : setting.tables.alert? alertId = some alert)
    (ofProduct : setting.tables.product? alert.productId = some product)
    (inWarehouse : setting.tables.warehouse? alert.warehouseId = some warehouse)
    (some : setting.recipients ≠ []) :
    sendLowStockAlertEmail setting alertId =
      sendEmail setting.mail setting.smtp setting.server setting.recipients
        (buildSubject alert product.name)
        (buildBody setting.isoformat alert product.name warehouse.name) := by
  simp only [sendLowStockAlertEmail, stored, foundOrRaise, bind, Except.bind, ofProduct,
    inWarehouse, if_neg some]

/-- An alert is emailed if and only if its product's name can be. -/
theorem alert_emailed_iff (setting : EmailSetting Header) (alertId : RowId) (alert : Alert)
    (product : Product) (warehouse : Warehouse)
    (stored : setting.tables.alert? alertId = some alert)
    (ofProduct : setting.tables.product? alert.productId = some product)
    (inWarehouse : setting.tables.warehouse? alert.warehouseId = some warehouse)
    (someone : ∃ user ∈ setting.users, user.isActiveSuperuser)
    (works : setting.server.Works setting.smtp) (writes : setting.mail.WritesPlain) :
    Emailed setting alertId ↔ Mailable setting alert product := by
  have some := recipients_ne_nil someone
  simp only [Emailed, Mailable, mailableName_iff writes,
    sendLowStockAlertEmail_eq stored ofProduct inWarehouse some]
  constructor
  · rintro ⟨delivery, handed, exact⟩
    obtain ⟨addressing, utf8, fromAddr, addressed, toAddrs, subject⟩ :=
      (sendEmail_ok_iff works some).mp ⟨delivery, handed, rfl⟩
    rw [← toAddrs] at exact
    exact ⟨addressing, utf8, fromAddr, addressed, exact.trans (recipients_perm setting).symm,
      subject⟩
  · rintro ⟨addressing, utf8, fromAddr, addressed, readBack, subject⟩
    obtain ⟨delivery, handed, toAddrs⟩ :=
      (sendEmail_ok_iff works some).mpr ⟨addressing, utf8, fromAddr, addressed, rfl, subject⟩
    exact ⟨delivery, handed, toAddrs ▸ readBack.trans (recipients_perm setting)⟩

end Task

/-! Two superusers and one other account, and an alert on a product whose name is given. -/

namespace Sample

def lowStockAlert : Alert where
  productId := product.id
  warehouseId := main.id
  alertType := .LOW_STOCK
  threshold := 10
  quantityAtTrigger := 5
  id := 0
  createdAt := 0

def users : List User := [
  { email := "ada@example.com", isSuperuser := true },
  { email := "bob@example.com" },
  { email := "cleo@example.com", isSuperuser := true }]

def willing : SmtpServer where
  connects := fun _ _ => true
  startsTls := true
  authenticates := fun _ _ => true
  smtputf8 := false
  takes := fun _ => true

theorem willing_works (settings : SmtpSettings) : willing.Works settings where
  connects := rfl
  startsTls := fun _ => rfl
  authenticates := fun _ _ => rfl
  takes := fun _ => rfl

/-- Short plain headers, and plain addresses with a comma between them. -/
def mail : MailLibrary String where
  headerFactory := fun _ value => .ok value
  getaddresses := fun header => (header.toList.splitOn ',').map
    (fun part => String.ofList (part.dropWhile (fun char => char = ' ')))
  fold := fun _ name header => .ok (name ++ ": " ++ header)

theorem mail_writesPlain : mail.WritesPlain :=
  fun _ value _ => ⟨value, rfl, _, rfl⟩

/-- The deployment, with a product of the given name. -/
def mailing (name : String) : EmailSetting String where
  tables := {
    products := [{ product with name := name }]
    warehouses := [main]
    alerts := [lowStockAlert] }
  users := users
  order := Sql.Order.stored User
  server := willing
  isoformat := fun _ => "1970-01-01T00:00:00+00:00"
  mail := mail

def addressing : Addressing String where
  sender := "alerts@inventory-management-api.local"
  receiver := "ada@example.com, cleo@example.com"

theorem recipients_eq (name : String) :
    (mailing name).recipients = ["ada@example.com", "cleo@example.com"] := rfl

theorem addressing_works : addressing.Works mail {} willing
    ["ada@example.com", "cleo@example.com"] false "alerts@inventory-management-api.local" where
  sender := header_ok_iff.mpr ⟨by decide, rfl⟩
  receiver := header_ok_iff.mpr ⟨by decide, rfl⟩
  first := rfl
  encoding := by decide
  taken := by decide
  senderWritten := ⟨_, rfl⟩
  receiverWritten := ⟨_, rfl⟩

theorem widget_mailable : Mailable (mailing "Widget") lowStockAlert product := by
  refine ⟨addressing, false, "alerts@inventory-management-api.local", ?_, ?_, .inl (by decide)⟩
  · rw [recipients_eq]
    exact addressing_works
  · rw [recipients_eq]
    decide

end Sample

theorem alert_emailed_iff_named : Emailed (Sample.mailing "Widget") 0 :=
  (alert_emailed_iff (Sample.mailing "Widget") 0 Sample.lowStockAlert Sample.product Sample.main
    rfl rfl rfl ⟨_, List.mem_cons_self, rfl⟩ (Sample.willing_works _) Sample.mail_writesPlain).mpr
    Sample.widget_mailable

/-- A product name of two lines. -/
theorem line_break_not_emailed :
    ¬ ∀ name : String, 1 ≤ name.length → name.length ≤ 255 → Emailed (Sample.mailing name) 0 := by
  intro always
  obtain ⟨delivery, returned, _⟩ := always "Widget\nDeluxe" (by decide) (by decide)
  have raised : ∃ error, sendLowStockAlertEmail (Sample.mailing "Widget\nDeluxe") 0 =
      .error error := ⟨_, rfl⟩
  obtain ⟨error, raised⟩ := raised
  rw [raised] at returned
  cases returned

end InventoryManagement
