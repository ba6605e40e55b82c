import InventoryManagement.Core

/-! `send_email`: one message to several recipients over SMTP, and when it is sent. What the
standard library makes of a header's text is a parameter, but for its check of line breaks. -/

set_option autoImplicit false

namespace InventoryManagement

/-- The SMTP part of the settings. -/
structure SmtpSettings where
  smtpHost : String := "localhost"
  smtpPort : Nat := 1025
  smtpUser : Option String := none
  smtpPassword : Option String := none
  smtpUseTls : Bool := false
  smtpFromEmail : String := "alerts@inventory-management-api.local"

/-- What reaches a Celery task from the repositories, `email.message` and `smtplib`. -/
inductive TaskError where
  | application (error : Exception)
  | valueError (message : String)
  | unicodeEncodeError
  | indexError
  | smtpException

/-- `header_factory`, `getaddresses` and `fold` of `email`. A header reads the encoded words
of its text, a folded one writes them; `fold` is told whether the policy is `utf8`. -/
structure MailLibrary (Header : Type) where
  headerFactory : String → String → Except TaskError Header
  getaddresses : Header → List String
  fold : Bool → String → Header → Except TaskError String

structure EmailMessage (Header : Type) where
  subject : Header
  sender : Header
  receiver : Header
  content : String

/-- A message as the server takes it, with its envelope. -/
structure Delivery where
  fromAddr : String
  toAddrs : List String
  headers : List String
  content : String
deriving DecidableEq

/-- What an SMTP server answers to each step of a session. -/
structure SmtpServer where
  connects : String → Nat → Bool
  startsTls : Bool
  authenticates : String → String → Bool
  smtputf8 : Bool
  takes : Delivery → Bool

/-- The characters at which `str.splitlines` breaks a line. -/
def lineBreaks : List Char :=
  ['\n', '\r', '\x0b', '\x0c', '\x1c', '\x1d', '\x1e', Char.ofNat 0x85, Char.ofNat 0x2028,
    Char.ofNat 0x2029]

/-- `str.splitlines`: a break ends the line before it. -/
def splitlines : List Char → List (List Char)
  | [] => []
  | '\r' :: '\n' :: rest => [] :: splitlines rest
  | char :: rest =>
    if char ∈ lineBreaks then [] :: splitlines rest
    else match splitlines rest with
      | [] => [[char]]
      | line :: lines => (char :: line) :: lines

/-- What `header_store_parse` demands: a break may only end the text. -/
def SingleLine (text : String) : Prop := (splitlines text.toList).length ≤ 1

instance SingleLine.decidable (text : String) : Decidable (SingleLine text) :=
  inferInstanceAs (Decidable (_ ≤ _))

/-- Where an encoded word may start. -/
def opensEncodedWord : List Char → Bool
  | '=' :: '?' :: _ => true
  | _ :: rest => opensEncodedWord rest
  | [] => false

def Unbroken (text : String) : Prop := ∀ char ∈ text.toList, char ∉ lineBreaks

theorem unbroken_iff (text : String) :
    text.toList.all (fun char => !lineBreaks.contains char) = true ↔ Unbroken text := by
  simp only [List.all_eq_true, Bool.not_eq_true', List.contains_eq_mem, decide_eq_false_iff_not,
    Unbroken]

instance Unbroken.decidable (text : String) : Decidable (Unbroken text) :=
  decidable_of_iff _ (unbroken_iff text)

/-- No line breaks and no encoded word. -/
def PlainText (text : String) : Prop := Unbroken text ∧ opensEncodedWord text.toList = false

instance PlainText.decidable (text : String) : Decidable (PlainText text) :=
  inferInstanceAs (Decidable (_ ∧ _))

section Library

variable {Header : Type}

/-- `EmailMessage.__setitem__`. -/
def MailLibrary.header (mail : MailLibrary Header) (name value : String) :
    Except TaskError Header :=
  if SingleLine value then mail.headerFactory name value
  else .error (.valueError "Header values may not contain linefeed or carriage return characters")

/-- `settings.smtp_user and settings.smtp_password`. -/
def SmtpSettings.credentials (settings : SmtpSettings) : Option (String × String) :=
  match settings.smtpUser, settings.smtpPassword with
  | some user, some password => if user = "" ∨ password = "" then none else some (user, password)
  | _, _ => none

/-- `BytesGenerator.flatten`; the transfer encoding of the content is left out. -/
def MailLibrary.flatten (mail : MailLibrary Header) (utf8 : Bool)
    (message : EmailMessage Header) : Except TaskError (List String) := do
  let subject ← mail.fold utf8 "Subject" message.subject
  let sender ← mail.fold utf8 "From" message.sender
  let receiver ← mail.fold utf8 "To" message.receiver
  return [subject, sender, receiver]

/-- `international`: some address is not ASCII. -/
def international (addresses : List String) : Bool :=
  addresses.any (fun address => address.toList.any (fun char => 128 ≤ char.toNat))

/-- `getaddresses([from_addr])[0][1]`. -/
def MailLibrary.firstAddress (mail : MailLibrary Header) (header : Header) :
    Except TaskError String :=
  match mail.getaddresses header with
  | address :: _ => .ok address
  | [] => .error .indexError

/-- `SMTP.send_message`: what the server has taken when it returns. -/
def sendMessage (mail : MailLibrary Header) (server : SmtpServer)
    (message : EmailMessage Header) : Except TaskError (List Delivery) := do
  let fromAddr ← mail.firstAddress message.sender
  let toAddrs := mail.getaddresses message.receiver
  let utf8 := international (fromAddr :: toAddrs)
  if utf8 ∧ ¬ server.smtputf8 then .error .smtpException
  else do
    let headers ← mail.flatten utf8 message
    let delivery := { fromAddr, toAddrs, headers, content := message.content }
    if server.takes delivery then return [delivery] else .error .smtpException

/-- The `with smtplib.SMTP` block. -/
def transmit (mail : MailLibrary Header) (settings : SmtpSettings) (server : SmtpServer)
    (message : EmailMessage Header) : Except TaskError (List Delivery) :=
  if ¬ server.connects settings.smtpHost settings.smtpPort then .error .smtpException
  else if settings.smtpUseTls ∧ ¬ server.startsTls then .error .smtpException
  else if settings.credentials.any (fun login => ! server.authenticates login.1 login.2) then
    .error .smtpException
  else sendMessage mail server message

def sendEmail (mail : MailLibrary Header) (settings : SmtpSettings) (server : SmtpServer)
    (recipients : List String) (subject body : String) : Except TaskError (List Delivery) :=
  if recipients = [] then .ok []
  else do
    let subject ← mail.header "Subject" subject
    let sender ← mail.header "From" settings.smtpFromEmail
    let receiver ← mail.header "To" (", ".intercalate recipients)
    transmit mail settings server { subject, sender, receiver, content := body }

/-- A server that goes along with every step the settings ask for. -/
structure SmtpServer.Works (server : SmtpServer) (settings : SmtpSettings) : Prop where
  connects : server.connects settings.smtpHost settings.smtpPort = true
  startsTls : settings.smtpUseTls = true → server.startsTls = true
  authenticates : ∀ login ∈ settings.credentials, server.authenticates login.1 login.2 = true
  takes : ∀ delivery, server.takes delivery = true

/-- The library reads the text of a header, and writes what it has read. -/
def MailLibrary.Writes (mail : MailLibrary Header) (utf8 : Bool) (name value : String) : Prop :=
  ∃ header, mail.headerFactory name value = .ok header ∧
    ∃ folded, mail.fold utf8 name header = .ok folded

/-- An unstructured header takes every plain text. -/
def MailLibrary.WritesPlain (mail : MailLibrary Header) : Prop :=
  ∀ utf8 value, PlainText value → mail.Writes utf8 "Subject" value

/-- The From and the To header of a message. -/
structure Addressing (Header : Type) where
  sender : Header
  receiver : Header

/-- They can be set and written, there is an address to send from, and the server takes
addresses that are not ASCII if there are any. -/
structure Addressing.Works (addressing : Addressing Header) (mail : MailLibrary Header)
    (settings : SmtpSettings) (server : SmtpServer) (recipients : List String) (utf8 : Bool)
    (fromAddr : String) : Prop where
  sender : mail.header "From" settings.smtpFromEmail = .ok addressing.sender
  receiver : mail.header "To" (", ".intercalate recipients) = .ok addressing.receiver
  first : mail.firstAddress addressing.sender = .ok fromAddr
  encoding : utf8 = international (fromAddr :: mail.getaddresses addressing.receiver)
  taken : utf8 = true → server.smtputf8 = true
  senderWritten : ∃ folded, mail.fold utf8 "From" addressing.sender = .ok folded
  receiverWritten : ∃ folded, mail.fold utf8 "To" addressing.receiver = .ok folded

end Library

/-! How the lines of a text and its encoded words change behind some plain text. -/

theorem splitlines_cons_length {char : Char} (plain : char ∉ lineBreaks) (text : List Char) :
    (splitlines (char :: text)).length = max 1 (splitlines text).length := by
  have other : ∀ rest, char = '\r' → text = '\n' :: rest → False := by
    rintro rest rfl -
    exact plain (by decide)
  rw [splitlines.eq_3 char text other, if_neg plain]
  cases splitlines text with
  | nil => rfl
  | cons line lines => simp

theorem singleLine_append {lead text : String} (plain : Unbroken lead) :
    SingleLine (lead ++ text) ↔ SingleLine text := by
  unfold SingleLine
  unfold Unbroken at plain
  rw [String.toList_append]
  generalize lead.toList = chars at plain
  induction chars with
  | nil => rfl
  | cons char rest ih =>
      rw [List.forall_mem_cons] at plain
      rw [List.cons_append, splitlines_cons_length plain.1, ← ih plain.2]
      omega

theorem opensEncodedWord_append {lead : List Char} (plain : '=' ∉ lead) (text : List Char) :
    opensEncodedWord (lead ++ text) = opensEncodedWord text := by
  induction lead with
  | nil => rfl
  | cons char rest ih =>
      rw [List.mem_cons, not_or] at plain
      rw [List.cons_append, opensEncodedWord.eq_2, ih plain.2]
      rintro _ rfl -
      exact plain.1 rfl

theorem unbroken_append {first second : String} :
    Unbroken (first ++ second) ↔ Unbroken first ∧ Unbroken second := by
  simp only [Unbroken, String.toList_append, List.mem_append, or_imp, forall_and]

theorem PlainText.singleLine {text : String} (plain : PlainText text) : SingleLine text := by
  have lines : SingleLine (text ++ "") ↔ SingleLine "" := singleLine_append plain.1
  rw [String.append_empty] at lines
  exact lines.mpr (by decide)

theorem except_bind_ok_iff {Error First Second : Type} {first : Except Error First}
    {next : First → Except Error Second} {value : Second} :
    (first >>= next) = .ok value ↔ ∃ between, first = .ok between ∧ next between = .ok value := by
  cases first with
  | error error =>
      constructor
      · intro raised
        cases raised
      · rintro ⟨_, none, _⟩
        cases none
  | ok between =>
      constructor
      · exact fun later => ⟨between, rfl, later⟩
      · rintro ⟨_, same, later⟩
        cases same
        exact later

section Sending

variable {Header : Type} {mail : MailLibrary Header} {settings : SmtpSettings}
  {server : SmtpServer}

theorem header_ok_iff {name value : String} {header : Header} :
    mail.header name value = .ok header ↔
      SingleLine value ∧ mail.headerFactory name value = .ok header := by
  unfold MailLibrary.header
  split
  · rename_i single
    simp [single]
  · rename_i broken
    simp [broken]

theorem flatten_ok_iff {utf8 : Bool} {message : EmailMessage Header} {headers : List String} :
    mail.flatten utf8 message = .ok headers ↔ ∃ subject sender receiver,
      mail.fold utf8 "Subject" message.subject = .ok subject ∧
      mail.fold utf8 "From" message.sender = .ok sender ∧
      mail.fold utf8 "To" message.receiver = .ok receiver ∧
      headers = [subject, sender, receiver] := by
  simp only [MailLibrary.flatten, except_bind_ok_iff, pure, Except.pure, Except.ok.injEq]
  constructor
  · rintro ⟨subject, first, sender, second, receiver, third, rfl⟩
    exact ⟨subject, sender, receiver, first, second, third, rfl⟩
  · rintro ⟨subject, sender, receiver, first, second, third, rfl⟩
    exact ⟨subject, first, sender, second, receiver, third, rfl⟩

theorem transmit_works (works : server.Works settings) (message : EmailMessage Header) :
    transmit mail settings server message = sendMessage mail server message := by
  unfold transmit
  rw [if_neg (by simp [works.connects]), if_neg, if_neg]
  · rw [Bool.not_eq_true, Option.any_eq_false]
    intro login given
    simp [works.authenticates login given]
  · rintro ⟨tls, plain⟩
    exact plain (works.startsTls tls)

theorem sendMessage_ok_iff (takes : ∀ delivery, server.takes delivery = true)
    {message : EmailMessage Header} {delivered : List Delivery} :
    sendMessage mail server message = .ok delivered ↔ ∃ fromAddr utf8 headers,
      mail.firstAddress message.sender = .ok fromAddr ∧
      utf8 = international (fromAddr :: mail.getaddresses message.receiver) ∧
      (utf8 = true → server.smtputf8 = true) ∧ mail.flatten utf8 message = .ok headers ∧
      delivered = [⟨fromAddr, mail.getaddresses message.receiver, headers, message.content⟩] := by
  simp only [sendMessage, except_bind_ok_iff, takes, if_true, pure, Except.pure]
  constructor
  · rintro ⟨fromAddr, first, sent⟩
    split at sent
    · cases sent
    · rename_i offered
      obtain ⟨headers, written, handed⟩ := except_bind_ok_iff.mp sent
      cases handed
      refine ⟨fromAddr, _, headers, first, rfl, fun utf8 => ?_, written, rfl⟩
      by_contra missing
      exact offered ⟨utf8, missing⟩
  · rintro ⟨fromAddr, utf8, headers, first, rfl, taken, written, rfl⟩
    refine ⟨fromAddr, first, ?_⟩
    rw [if_neg fun refused => refused.2 (taken refused.1)]
    exact except_bind_ok_iff.mpr ⟨headers, written, rfl⟩

/-- With a working server, `send_email` hands over a message if and only if its headers can
be set and written. -/
theorem sendEmail_ok_iff (works : server.Works settings) {recipients : List String}
    (some : recipients ≠ []) {subject body : String} {toAddrs : List String} :
    (∃ delivery, sendEmail mail settings server recipients subject body = .ok [delivery] ∧
        delivery.toAddrs = toAddrs) ↔
      ∃ (addressing : Addressing Header) (utf8 : Bool) (fromAddr : String),
        addressing.Works mail settings server recipients utf8 fromAddr ∧
        mail.getaddresses addressing.receiver = toAddrs ∧
        SingleLine subject ∧ mail.Writes utf8 "Subject" subject := by
  rw [sendEmail, if_neg some]
  simp only [except_bind_ok_iff, transmit_works works, sendMessage_ok_iff works.takes,
    flatten_ok_iff]
  constructor
  · rintro ⟨_, ⟨header, set, sender, senderSet, receiver, receiverSet, fromAddr, utf8, _, first,
      encoding, taken, ⟨_, _, _, written, senderWritten, receiverWritten, _⟩, handed⟩, rfl⟩
    cases handed
    obtain ⟨single, parsed⟩ := header_ok_iff.mp set
    exact ⟨⟨sender, receiver⟩, utf8, fromAddr, ⟨senderSet, receiverSet, first, encoding, taken,
      ⟨_, senderWritten⟩, ⟨_, receiverWritten⟩⟩, rfl, single, ⟨header, parsed, _, written⟩⟩
  · rintro ⟨addressing, utf8, fromAddr, addressed, rfl, single, ⟨header, parsed, _, written⟩⟩
    obtain ⟨_, senderWritten⟩ := addressed.senderWritten
    obtain ⟨_, receiverWritten⟩ := addressed.receiverWritten
    exact ⟨_, ⟨header, header_ok_iff.mpr ⟨single, parsed⟩, addressing.sender, addressed.sender,
      addressing.receiver, addressed.receiver, fromAddr, utf8, _, addressed.first,
      addressed.encoding, addressed.taken,
      ⟨_, _, _, written, senderWritten, receiverWritten, rfl⟩, rfl⟩, rfl⟩

end Sending

end InventoryManagement
