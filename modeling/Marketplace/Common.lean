import Mathlib.Data.List.Sort
import Marketplace.Base.Holds
import Marketplace.Base.Numeric
import Marketplace.Base.Outcome
import Marketplace.Base.System
import Marketplace.Base.Table
import Marketplace.Base.Traces

/-!
# What the services share

Identifiers, clocks, access tokens and errors, as the five services use them.

An identifier is a number: the 128 bits of a version 4 UUID are random, and the
model idealises them as a supply that never repeats a value.  A clock reading is
a number of microseconds.

The `X-Request-ID` of a request, which the audit and outbox rows repeat in
`varchar(100)` columns, is left out.  The requests are those whose identifier fits.
-/

namespace Marketplace

open Base

abbrev UUID := Nat

abbrev DateTime := Int

def minutes (n : Nat) : Int := n * 60000000

/-- The values `uuid4()` returns, in the order in which they reach a database.
A value drawn by a transaction that is rolled back leaves no trace and is not
counted. -/
structure Supply where
  value : Nat → UUID
  injective : Function.Injective value

/-- The identifier is one of the first `n` values of the supply. -/
def Supply.Issued (u : Supply) (n : Nat) (id : UUID) : Prop := ∃ i < n, u.value i = id

theorem Supply.Issued.mono {u : Supply} {m n : Nat} {id : UUID} (h : u.Issued m id)
    (hmn : m ≤ n) : u.Issued n id := by
  obtain ⟨i, hi, rfl⟩ := h
  exact ⟨i, Nat.lt_of_lt_of_le hi hmn, rfl⟩

theorem Supply.issued_succ {u : Supply} {n : Nat} : u.Issued (n + 1) (u.value n) :=
  ⟨n, Nat.lt_succ_self n, rfl⟩

theorem Supply.not_issued {u : Supply} {m n : Nat} (h : m ≤ n) : ¬u.Issued m (u.value n) := by
  rintro ⟨i, hi, he⟩
  have := u.injective he
  omega

def hexDigits (width n : Nat) : List Char :=
  let ds := Nat.toDigits 16 n
  List.replicate (width - ds.length) '0' ++ ds

/-- `uuid.hex` -/
def UUID.hex (id : UUID) : List Char := hexDigits 32 id

/-- `str(uuid)` -/
def UUID.str (id : UUID) : String :=
  let h := UUID.hex id
  String.ofList (h.take 8 ++ ['-'] ++ (h.drop 8).take 4 ++ ['-'] ++ (h.drop 12).take 4 ++ ['-'] ++
    (h.drop 16).take 4 ++ ['-'] ++ h.drop 20)

/-! ## Access tokens -/

inductive Role
  | admin
  | seller
  | buyer
  | other (name : String)
  deriving DecidableEq

inductive Scope
  | inventoryCheckout
  | inventoryCommit
  | inventoryExpire
  | inventorySync
  | cartCheckout
  | ordersPayment
  | ordersFulfillment
  | other (name : String)
  deriving DecidableEq

structure Principal where
  subject : UUID
  roles : List Role
  scopes : List Scope
  deriving DecidableEq

namespace Principal

/-- `has_role(*roles)`: the token carries one of them. -/
def hasRole (p : Principal) (roles : List Role) : Bool := p.roles.any fun r => r ∈ roles

def hasScope (p : Principal) (scope : Scope) : Bool := scope ∈ p.scopes

end Principal

/-- The token the Order Service calls the others with. -/
def orderService : Principal := ⟨3, [], [.inventoryCommit, .cartCheckout, .inventoryCheckout]⟩

/-- The token the Payment Service calls the Order Service with. -/
def paymentService : Principal := ⟨2, [], [.ordersPayment]⟩

/-! ## Errors -/

structure ServiceError where
  statusCode : Nat
  code : String
  message : String
  deriving DecidableEq

/-- What rolls a transaction back. -/
inductive Failure
  /-- The service refuses the request. -/
  | service (error : ServiceError)
  /-- The database refuses a row, for the named constraint. -/
  | integrity (constraint : String)
  /-- The database cannot represent a value of the named column. -/
  | data (column : String)
  deriving DecidableEq

/-- The status code a failed request is answered with; a value the database
cannot represent is not handled. -/
def Failure.statusCode : Failure → Nat
  | .service e => e.statusCode
  | .integrity _ => 409
  | .data _ => 500

def raise (statusCode : Nat) (code message : String) : Failure :=
  .service ⟨statusCode, code, message⟩

/-- What a service answers to a call of another. -/
inductive Reply (α : Type)
  | ok (body : α)
  | refused (statusCode : Nat)
  deriving DecidableEq

/-! ## Header values and request bodies -/

/-- The characters `str.strip` removes. -/
def isSpace (c : Char) : Bool :=
  let n := c.toNat
  (0x09 ≤ n && n ≤ 0x0d) || (0x1c ≤ n && n ≤ 0x20) || n == 0x85 || n == 0xa0 || n == 0x1680 ||
    (0x2000 ≤ n && n ≤ 0x200a) || n == 0x2028 || n == 0x2029 || n == 0x202f || n == 0x205f ||
    n == 0x3000

/-- `str.strip()` -/
def strip (s : String) : String :=
  String.ofList ((s.toList.dropWhile isSpace).reverse.dropWhile isSpace).reverse

/-- An empty key counts as none. -/
def givenKey (idempotencyKey : Option String) : Option String :=
  idempotencyKey.filter fun key => key ≠ ""

/-- A field of a partial update: left out, given as `null`, or given a value. -/
inductive Patch (α : Type)
  | unset
  | null
  | set (value : α)
  deriving DecidableEq

def Patch.isUnset {α : Type} : Patch α → Bool
  | .unset => true
  | _ => false

/-- A patch of a column that may not be null. -/
def Patch.apply {α : Type} (column : String) (old : α) : Patch α → Except Failure α
  | .unset => .ok old
  | .null => .error (.integrity column)
  | .set a => .ok a

/-- A patch of a column that may be null. -/
def Patch.applyNullable {α : Type} (old : Option α) : Patch α → Option α
  | .unset => old
  | .null => none
  | .set a => some a

/-! ## Columns -/

/-- A `numeric(14, 2)` column. -/
def numericColumn (column : String) (x : ℚ) : Except Failure Int := do
  let n := toHundredths x
  require (-10 ^ 14 < n ∧ n < 10 ^ 14) (.data column)
  return n

/-- A `varchar(width)` column of text that another database, Stripe or the service
itself gives. -/
def textColumn (column : String) (width : Nat) (s : String) : Except Failure String := do
  require (s.length ≤ width) (.data column)
  return s

/-- No character is U+0000, which a JSON string may hold and PostgreSQL does not
store. -/
def NulFree (s : String) : Prop := ∀ c ∈ s.toList, c.toNat ≠ 0

instance : DecidablePred NulFree := fun _ => List.decidableBAll _ _

/-- A `text` column of what a request says. -/
def requestText (column : String) (s : String) : Except Failure String := do
  require (NulFree s) (.data column)
  return s

/-- A `varchar(width)` column of what a request says. -/
def requestColumn (column : String) (width : Nat) (s : String) : Except Failure String := do
  let s ← requestText column s
  textColumn column width s

/-- The instant is one of the years 1 to 9999 in UTC.  A time of a request may lie
outside them, by its offset. -/
def InCalendar (t : DateTime) : Prop := -62135596800000000 ≤ t ∧ t < 253402300800000000

instance : DecidablePred InCalendar := fun t =>
  inferInstanceAs (Decidable (-62135596800000000 ≤ t ∧ t < 253402300800000000))

/-- A `timestamptz` column, which the driver is given in UTC. -/
def timestampColumn (column : String) (t : DateTime) : Except Failure DateTime := do
  require (InCalendar t) (.data column)
  return t

/-- An `integer` column. -/
def integerColumn (column : String) (n : Int) : Except Failure Int := do
  require (-2 ^ 31 ≤ n ∧ n < 2 ^ 31) (.data column)
  return n

theorem numericColumn_eq_ok {column : String} {x : ℚ} {n : Int} :
    numericColumn column x = .ok n ↔ toHundredths x = n ∧ -10 ^ 14 < n ∧ n < 10 ^ 14 := by
  simp only [numericColumn, bind_eq_ok, require_eq_ok, pure_eq_ok]
  constructor
  · rintro ⟨_, hrange, rfl⟩
    exact ⟨rfl, hrange⟩
  · rintro ⟨rfl, hrange⟩
    exact ⟨(), hrange, rfl⟩

theorem integerColumn_eq_ok {column : String} {n m : Int} :
    integerColumn column n = .ok m ↔ n = m ∧ -2 ^ 31 ≤ n ∧ n < 2 ^ 31 := by
  simp only [integerColumn, bind_eq_ok, require_eq_ok, pure_eq_ok]
  constructor
  · rintro ⟨_, hrange, rfl⟩
    exact ⟨rfl, hrange⟩
  · rintro ⟨rfl, hrange⟩
    exact ⟨(), hrange, rfl⟩

theorem textColumn_eq_ok {column : String} {width : Nat} {s t : String} :
    textColumn column width s = .ok t ↔ s = t ∧ s.length ≤ width := by
  simp only [textColumn, bind_eq_ok, require_eq_ok, pure_eq_ok]
  constructor
  · rintro ⟨_, hlength, rfl⟩
    exact ⟨rfl, hlength⟩
  · rintro ⟨rfl, hlength⟩
    exact ⟨(), hlength, rfl⟩

theorem requestText_eq_ok {column s t : String} :
    requestText column s = .ok t ↔ s = t ∧ NulFree s := by
  simp only [requestText, bind_eq_ok, require_eq_ok, pure_eq_ok]
  constructor
  · rintro ⟨_, hfree, rfl⟩
    exact ⟨rfl, hfree⟩
  · rintro ⟨rfl, hfree⟩
    exact ⟨(), hfree, rfl⟩

theorem requestColumn_eq_ok {column : String} {width : Nat} {s t : String} :
    requestColumn column width s = .ok t ↔ s = t ∧ NulFree s ∧ s.length ≤ width := by
  simp only [requestColumn, bind_eq_ok, requestText_eq_ok, textColumn_eq_ok]
  constructor
  · rintro ⟨_, ⟨rfl, hfree⟩, rfl, hlength⟩
    exact ⟨rfl, hfree, hlength⟩
  · rintro ⟨rfl, hfree, hlength⟩
    exact ⟨s, ⟨rfl, hfree⟩, rfl, hlength⟩

theorem timestampColumn_eq_ok {column : String} {t u : DateTime} :
    timestampColumn column t = .ok u ↔ t = u ∧ InCalendar t := by
  simp only [timestampColumn, bind_eq_ok, require_eq_ok, pure_eq_ok]
  constructor
  · rintro ⟨_, hcalendar, rfl⟩
    exact ⟨rfl, hcalendar⟩
  · rintro ⟨rfl, hcalendar⟩
    exact ⟨(), hcalendar, rfl⟩

theorem nulFree_append {s t : String} : NulFree (s ++ t) ↔ NulFree s ∧ NulFree t := by
  simp only [NulFree, String.toList_append, List.forall_mem_append]

end Marketplace
