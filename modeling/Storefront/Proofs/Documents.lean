import Storefront.Document.Event
import Storefront.Http.Body
import Storefront.Proofs.Fields
import Storefront.Proofs.Instants
import Storefront.Proofs.JsonText
import Storefront.Proofs.Lines
import Storefront.Proofs.Table

/-! # Documents

Everything that is written is read back: money, addresses, products, lines of orders and
their snapshots, orders, stores, customers, and all that can happen to them.  Reading
gives the value that was written; only what an aggregate has not told yet is no part of
its document.

Each sort of value has two lemmas, that it is written plainly and that it is read back,
and the lemmas of a document are put together from those of its parts.
-/
namespace Storefront

open Json

/-! ### Values -/

theorem Uuid.ofDigits?_of_hyphen {cs : List Char} (h : '-' ∈ cs) : Uuid.ofDigits? cs = none := by
  have hnone : cs.mapM Uuid.digit? = none := by
    induction cs with
    | nil => cases h
    | cons c cs ih =>
      rcases List.mem_cons.mp h with rfl | h
      · have hdigit : Uuid.digit? '-' = none := by decide
        simp [hdigit]
      · cases hc : Uuid.digit? c <;> simp [hc, ih h]
  simp [Uuid.ofDigits?, hnone]

/-- What begins with a digit stands neither in braces nor behind a marker. -/
theorem Uuid.core?_digitChar (d : Fin 16) (cs : List Char) :
    Uuid.core? (Uuid.digitChar d :: cs) = some (Uuid.digitChar d :: cs) := by
  have hbrace : ∀ d : Fin 16, Uuid.digitChar d ≠ '\x7b' := by decide
  have hmarker : ∀ d : Fin 16, (Uuid.digitChar d).toLower ≠ 'u' := by decide
  have hurn : "urn:uuid:".toList = 'u' :: "rn:uuid:".toList := rfl
  simp [Uuid.core?, Uuid.unbrace?, hbrace d, hurn, Uuid.dropMarker?, hmarker d]

/-- **A UUID is read back from its text.** -/
theorem Uuid.parse?_text (u : Uuid) : Uuid.parse? u.text = some u := by
  obtain ⟨d, ds, hds⟩ : ∃ d ds, u.digits = d :: ds :=
    List.exists_cons_of_ne_nil fun h => by simpa [h] using u.length_eq
  have hlength : (u.digits.map Uuid.digitChar).length = 32 := by simp [u.length_eq]
  have hsplit := Uuid.splitGroups_joinGroups Uuid.groupSizes (u.digits.map Uuid.digitChar)
    (by rw [hlength]; decide)
  have hhyphen : Uuid.ofDigits? (Uuid.joinGroups Uuid.groupSizes (u.digits.map Uuid.digitChar)) =
      none := by
    apply Uuid.ofDigits?_of_hyphen
    simp [Uuid.groupSizes, Uuid.joinGroups]
  have hcore : Uuid.core? (Uuid.joinGroups Uuid.groupSizes (u.digits.map Uuid.digitChar)) =
      some (Uuid.joinGroups Uuid.groupSizes (u.digits.map Uuid.digitChar)) := by
    rw [hds]
    exact Uuid.core?_digitChar d _
  simp [Uuid.parse?, Uuid.text, hhyphen, hcore, hsplit, Uuid.ofDigits?_digits]

theorem Id.parse?_text {noun : Noun} (id : Id noun) : Id.parse? id.text = some id := by
  simp [Id.parse?, Id.text, Uuid.parse?_text]

@[simp] theorem Id.plain {noun : Noun} (id : Id noun) : Plain id.toJson := .str _

theorem Id.reads {noun : Noun} (id : Id noun) : Id.reader.Reads id.toJson id :=
  Reader.reads_parsed id.parse?_text

@[simp] theorem Timestamp.plain (t : Timestamp) : Plain t.toJson := .str _

theorem Timestamp.reads (t : Timestamp) : Timestamp.reader.Reads t.toJson t :=
  Reader.reads_parsed t.parse?_text

theorem Money.amount_lt (m : Money) : m.amount < 2 ^ 63 :=
  Nat.lt_of_le_of_lt m.amount_le (by decide)

@[simp] theorem Money.plain (m : Money) : Plain m.toJson := by
  simp [Money.toJson, plain_nat (m.amount_lt.trans (by decide))]

/-- Money passes its own check: the currency is in capitals and the amount fits. -/
theorem Money.make_self (m : Money) : Money.make m.amount m.currency.code = .ok m := by
  have hpos : ¬ (m.amount : Int) < 0 := by omega
  simp [Money.make, hpos, Currency.parse_of_isCode m.currency.code_isCode,
    Money.ofNat_of_le m.amount_le]

theorem Money.reads (m : Money) : Money.reader.Reads m.toJson m := by
  have hfields : UncheckedMoney.reader.Reads m.toJson ⟨m.amount, m.currency.code⟩ := by
    refine Record.Reads.read ?_ rfl (by decide)
    exact Record.reads_field _ rfl (Reader.reads_signed m.amount_lt)
      |>.field rfl (Reader.reads_string _)
  exact hfields.checked (by simp [UncheckedMoney.check, m.make_self, Except.toOption])

@[simp] theorem Address.plain (a : Address) : Plain a.toJson := by
  simp [Address.toJson]

theorem Address.reads (a : Address) : Address.reader.Reads a.toJson a := by
  refine Record.Reads.read ?_ rfl (by decide)
  exact Record.reads_field _ rfl (Reader.reads_string _) |>.field rfl (Reader.reads_string _)
    |>.field rfl (Reader.reads_string _) |>.field rfl (Reader.reads_string _)
    |>.field rfl (Reader.reads_string _)

theorem Email.reads (e : Email) : Email.reader.Reads e.toJson e := Reader.reads_parsed rfl

theorem PhoneNumber.reads (p : PhoneNumber) : PhoneNumber.reader.Reads p.toJson p :=
  Reader.reads_parsed rfl

theorem ProductName.reads (n : ProductName) : ProductName.reader.Reads n.toJson n :=
  Reader.reads_parsed rfl

theorem Tier.reads (t : Tier) (aside : Bool) : (Tier.reader aside).Reads t.toJson t :=
  Reader.reads_choice (by cases t <;> rfl) aside

theorem OrderStatus.reads (s : OrderStatus) (aside : Bool) :
    (OrderStatus.reader aside).Reads s.toJson s :=
  Reader.reads_choice (by cases s <;> rfl) aside

@[simp] theorem Email.plain (e : Email) : Plain e.toJson := .str _

@[simp] theorem PhoneNumber.plain (p : PhoneNumber) : Plain p.toJson := .str _

@[simp] theorem ProductName.plain (n : ProductName) : Plain n.toJson := .str _

@[simp] theorem Tier.plain (t : Tier) : Plain t.toJson := .str _

@[simp] theorem OrderStatus.plain (s : OrderStatus) : Plain s.toJson := .str _

/-! ### Orders -/

@[simp] theorem OrderLine.plain (l : OrderLine) : Plain l.toJson := by
  simp [OrderLine.toJson]

theorem OrderLine.reads (l : OrderLine) : OrderLine.reader.Reads l.toJson l := by
  refine Record.Reads.read ?_ rfl (by decide)
  exact Record.reads_field _ rfl l.id.reads |>.field rfl l.productId.reads
    |>.field rfl (Reader.reads_string _) |>.field rfl (Reader.reads_word _)
    |>.field rfl l.unitPrice.reads

@[simp] theorem LineSnapshot.plain (l : LineSnapshot) : Plain l.toJson := by
  simp [LineSnapshot.toJson]

theorem LineSnapshot.reads (l : LineSnapshot) : LineSnapshot.reader.Reads l.toJson l := by
  refine Record.Reads.read ?_ rfl (by decide)
  exact Record.reads_field _ rfl l.productId.reads |>.field rfl (Reader.reads_string _)
    |>.field rfl (Reader.reads_word _) |>.field rfl l.unitPrice.reads |>.field rfl l.total.reads

theorem Order.plain (o : Order) : Plain o.toJson := by
  simp [Order.toJson, plain_list OrderLine.plain, plain_option plain_str]

/-- An order is read back with nothing left to tell. -/
theorem Order.reads (o : Order) : Order.reader.Reads o.toJson o.settled := by
  refine Record.Reads.read ?_ rfl (by decide)
  exact Record.reads_field _ rfl o.id.reads |>.field rfl o.customerId.reads
    |>.field rfl o.storeId.reads |>.field rfl (Reader.reads_list OrderLine.reads _)
    |>.field rfl (o.status.reads _) |>.field rfl o.total.reads |>.field rfl o.placedAt.reads
    |>.optional rfl (Reader.reads_nullable (fun _ => by simp) Reader.reads_string _)

/-- No order that is read has anything to tell. -/
theorem Order.settled_of_reader {d : Draft} {o : Order} (h : Order.reader d = .ok o) :
    o.settled = o := by
  have hmakes : Order.fields.Makes fun o => o.pending = [] := by
    unfold Order.fields
    iterate 7 apply Record.Makes.seq
    refine Record.makes_map ?_
    intros
    rfl
  have hpending := hmakes.read h
  cases o
  simp_all [settled]

theorem OrderEvent.plain (e : OrderEvent) : Plain e.toJson := by
  cases e <;> simp [OrderEvent.toJson, content, plain_list LineSnapshot.plain]

theorem OrderEvent.reads (e : OrderEvent) : OrderEvent.reader.Reads e.toJson e := by
  cases e with
  | created order customer store placedAt =>
    refine Shapes.reads rfl (Record.Reads.read ?_ rfl (by decide))
    exact Record.reads_field _ rfl order.reads |>.field rfl customer.reads
      |>.field rfl store.reads |>.field rfl placedAt.reads
  | confirmed order customer store total items =>
    refine Shapes.reads rfl (Record.Reads.read ?_ rfl (by decide))
    exact Record.reads_field _ rfl order.reads |>.field rfl customer.reads
      |>.field rfl store.reads |>.field rfl total.reads
      |>.field rfl (Reader.reads_list LineSnapshot.reads _)
  | cancelled order customer store reason previous =>
    refine Shapes.reads rfl (Record.Reads.read ?_ rfl (by decide))
    exact Record.reads_field _ rfl order.reads |>.field rfl customer.reads
      |>.field rfl store.reads |>.field rfl (Reader.reads_string _)
      |>.field rfl (previous.reads _)
  | preparationStarted order store =>
    refine Shapes.reads rfl (Record.Reads.read ?_ rfl (by decide))
    exact Record.reads_field _ rfl order.reads |>.field rfl store.reads
  | ready order customer =>
    refine Shapes.reads rfl (Record.Reads.read ?_ rfl (by decide))
    exact Record.reads_field _ rfl order.reads |>.field rfl customer.reads
  | completed order customer total completedAt =>
    refine Shapes.reads rfl (Record.Reads.read ?_ rfl (by decide))
    exact Record.reads_field _ rfl order.reads |>.field rfl customer.reads
      |>.field rfl total.reads |>.field rfl completedAt.reads

/-! ### Stores -/

theorem Table.plain {α : Type} {write : α → Json} (h : ∀ a, Plain (write a))
    (t : Table ProductId α) : Plain (t.toJson write) := by
  rw [Table.toJson, plain_obj]
  intro f hf
  obtain ⟨e, -, rfl⟩ := List.mem_map.mp hf
  exact h e.2

/-- A table is read back entry by entry, in its own order. -/
theorem Table.reads {α : Type} {write : α → Json} {r : Reader α}
    (h : ∀ a, r.Reads (write a) a) (t : Table ProductId α) :
    (Table.reader r).Reads (t.toJson write) t := by
  have hentries : Reader.entries Id.parse? r (Draft.ofJson (t.toJson write)) =
      .ok t.entries := by
    simp only [Table.toJson, Draft.ofJson, Draft.ofFields_eq_map, Reader.entries]
    induction t.entries with
    | nil => rfl
    | cons e entries ih =>
      have hvalue : r (Draft.ofJson (write e.2)) = .ok e.2 := h e.2
      simp only [List.map_cons, List.mapM_cons, Id.parse?_text, hvalue, ih]
      rfl
  simp only [Reader.Reads, Table.reader, hentries]
  exact congrArg Except.ok t.ofList_entries

@[simp] theorem Product.plain (p : Product) : Plain p.toJson := by
  simp [Product.toJson]

theorem Product.reads (p : Product) : Product.reader.Reads p.toJson p := by
  refine Record.Reads.read ?_ rfl (by decide)
  exact Record.reads_field _ rfl p.id.reads |>.field rfl p.name.reads
    |>.field rfl (Reader.reads_string _) |>.field rfl p.price.reads
    |>.field rfl (Reader.reads_bool _)

theorem Store.plain (s : Store) : Plain s.toJson := by
  simp [Store.toJson, Table.plain Product.plain, Table.plain plain_word]

/-- A store is read back with nothing left to tell. -/
theorem Store.reads (s : Store) : Store.reader.Reads s.toJson s.settled := by
  refine Record.Reads.read ?_ rfl (by decide)
  exact Record.reads_field _ rfl s.id.reads |>.field rfl (Reader.reads_string _)
    |>.field rfl s.location.reads |>.field rfl (Reader.reads_string _)
    |>.field rfl (Table.reads Product.reads _) |>.field rfl (Table.reads Reader.reads_word _)

/-- No store that is read has anything to tell. -/
theorem Store.settled_of_reader {d : Draft} {s : Store} (h : Store.reader d = .ok s) :
    s.settled = s := by
  have hmakes : Store.fields.Makes fun s => s.pending = [] := by
    unfold Store.fields
    iterate 5 apply Record.Makes.seq
    refine Record.makes_map ?_
    intros
    rfl
  have hpending := hmakes.read h
  cases s
  simp_all [settled]

theorem StoreEvent.plain (e : StoreEvent) : Plain e.toJson := by
  cases e <;> simp [StoreEvent.toJson, content]

theorem StoreEvent.reads (e : StoreEvent) : StoreEvent.reader.Reads e.toJson e := by
  cases e with
  | created store name location currency =>
    refine Shapes.reads rfl (Record.Reads.read ?_ rfl (by decide))
    exact Record.reads_field _ rfl store.reads |>.field rfl (Reader.reads_string _)
      |>.field rfl location.reads |>.field rfl (Reader.reads_string _)
  | productAdded store product name price =>
    refine Shapes.reads rfl (Record.Reads.read ?_ rfl (by decide))
    exact Record.reads_field _ rfl store.reads |>.field rfl product.reads
      |>.field rfl (Reader.reads_string _) |>.field rfl price.reads
  | priceUpdated store product oldPrice newPrice =>
    refine Shapes.reads rfl (Record.Reads.read ?_ rfl (by decide))
    exact Record.reads_field _ rfl store.reads |>.field rfl product.reads
      |>.field rfl oldPrice.reads |>.field rfl newPrice.reads
  | productDeactivated store product =>
    refine Shapes.reads rfl (Record.Reads.read ?_ rfl (by decide))
    exact Record.reads_field _ rfl store.reads |>.field rfl product.reads
  | inventoryAdded store product added level =>
    refine Shapes.reads rfl (Record.Reads.read ?_ rfl (by decide))
    exact Record.reads_field _ rfl store.reads |>.field rfl product.reads
      |>.field rfl (Reader.reads_word _) |>.field rfl (Reader.reads_word _)
  | inventoryReserved store product reserved remaining =>
    refine Shapes.reads rfl (Record.Reads.read ?_ rfl (by decide))
    exact Record.reads_field _ rfl store.reads |>.field rfl product.reads
      |>.field rfl (Reader.reads_word _) |>.field rfl (Reader.reads_word _)

/-! ### Customers -/

theorem PhoneNumber.toJson_ne_null (p : PhoneNumber) : p.toJson ≠ .null := by
  simp [PhoneNumber.toJson]

theorem Address.toJson_ne_null (a : Address) : a.toJson ≠ .null := by
  simp [Address.toJson]

theorem Customer.plain (c : Customer) : Plain c.toJson := by
  simp [Customer.toJson, plain_option PhoneNumber.plain, plain_option Address.plain]

/-- A customer is read back with nothing left to tell. -/
theorem Customer.reads (c : Customer) : Customer.reader.Reads c.toJson c.settled := by
  refine Record.Reads.read ?_ rfl (by decide)
  exact Record.reads_field _ rfl c.id.reads |>.field rfl c.email.reads
    |>.field rfl (Reader.reads_string _) |>.field rfl (Reader.reads_string _)
    |>.optional rfl (Reader.reads_nullable PhoneNumber.toJson_ne_null PhoneNumber.reads _)
    |>.optional rfl (Reader.reads_nullable Address.toJson_ne_null Address.reads _)
    |>.field rfl (c.tier.reads _) |>.field rfl (Reader.reads_word _)
    |>.field rfl c.registeredAt.reads |>.field rfl (Reader.reads_bool _)

/-- No customer that is read has anything to tell. -/
theorem Customer.settled_of_reader {d : Draft} {c : Customer} (h : Customer.reader d = .ok c) :
    c.settled = c := by
  have hmakes : Customer.fields.Makes fun c => c.pending = [] := by
    unfold Customer.fields
    iterate 9 apply Record.Makes.seq
    refine Record.makes_map ?_
    intros
    rfl
  have hpending := hmakes.read h
  cases c
  simp_all [settled]

theorem CustomerEvent.plain (e : CustomerEvent) : Plain e.toJson := by
  cases e <;> simp [CustomerEvent.toJson, content]

theorem CustomerEvent.reads (e : CustomerEvent) : CustomerEvent.reader.Reads e.toJson e := by
  cases e with
  | registered customer email firstName lastName =>
    refine Shapes.reads rfl (Record.Reads.read ?_ rfl (by decide))
    exact Record.reads_field _ rfl customer.reads |>.field rfl (Reader.reads_string _)
      |>.field rfl (Reader.reads_string _) |>.field rfl (Reader.reads_string _)
  | contactUpdated customer phoneNumber address =>
    refine Shapes.reads rfl (Record.Reads.read ?_ rfl (by decide))
    exact Record.reads_field _ rfl customer.reads |>.field rfl (Reader.reads_string _)
      |>.field rfl address.reads
  | pointsAwarded customer points balance =>
    refine Shapes.reads rfl (Record.Reads.read ?_ rfl (by decide))
    exact Record.reads_field _ rfl customer.reads |>.field rfl (Reader.reads_word _)
      |>.field rfl (Reader.reads_word _)
  | pointsRedeemed customer points balance =>
    refine Shapes.reads rfl (Record.Reads.read ?_ rfl (by decide))
    exact Record.reads_field _ rfl customer.reads |>.field rfl (Reader.reads_word _)
      |>.field rfl (Reader.reads_word _)
  | tierChanged customer oldTier newTier balance =>
    refine Shapes.reads rfl (Record.Reads.read ?_ rfl (by decide))
    exact Record.reads_field _ rfl customer.reads |>.field rfl (oldTier.reads _)
      |>.field rfl (newTier.reads _) |>.field rfl (Reader.reads_word _)
  | deactivated customer =>
    refine Shapes.reads rfl (Record.Reads.read ?_ rfl (by decide))
    exact Record.reads_field _ rfl customer.reads

/-! ### Events -/

theorem Payload.plain (p : Payload) : Plain p.toJson := by
  cases p <;> simp [Payload.toJson, StoreEvent.plain, OrderEvent.plain, CustomerEvent.plain]

theorem Payload.reads (p : Payload) : Payload.reader.Reads p.toJson p := by
  cases p with
  | store e =>
    refine Reader.reads_oneField rfl ?_
    exact congrArg (Except.map store) e.reads
  | order e =>
    refine Reader.reads_oneField rfl ?_
    exact congrArg (Except.map order) e.reads
  | customer e =>
    refine Reader.reads_oneField rfl ?_
    exact congrArg (Except.map customer) e.reads

theorem Event.plain (e : Event) : Plain e.toJson := by
  simp [Event.toJson, Payload.plain]

theorem Event.reads (e : Event) : Event.reader.Reads e.toJson e := by
  refine Record.Reads.read ?_ rfl (by decide)
  exact Record.reads_field _ rfl e.id.reads |>.field rfl (Reader.reads_string _)
    |>.field rfl (Reader.reads_string _) |>.field rfl e.occurredAt.reads
    |>.field rfl e.payload.reads

/-! ### The format as a whole -/

section

variable {α : Type}

/-- The text that is written for what was read from a text. -/
def rewritten (write : α → Json) (read : Reader α) (s : String) : Except Fault String :=
  (Http.readText read s).map fun a => (write a).text

/-- That reading undoes writing, up to what a document does not keep of a value. -/
structure Faithful (write : α → Json) (read : Reader α) (kept : α → α) : Prop where
  /-- The document of a value is read as what is kept of the value. -/
  document : ∀ a, read (.ofJson (write a)) = .ok (kept a)
  /-- So is the text of the document. -/
  text : ∀ a, Http.readText read (write a).text = .ok (kept a)
  /-- Whatever document a value was read from, all of the value is kept. -/
  reread : ∀ d a, read d = .ok a → read (.ofJson (write a)) = .ok a
  /-- Whatever text a value was read from, the text written for it says the same. -/
  retold : ∀ s a, Http.readText read s = .ok a → Http.readText read (write a).text = .ok a
  /-- A text that was written for what was read is never written in another way. -/
  fixed : ∀ s t, rewritten write read s = .ok t → rewritten write read t = .ok t

theorem readText_text {read : Reader α} {j : Json} (hplain : Plain j) {a : α}
    (h : read.Reads j a) : Http.readText read j.text = .ok a := by
  have hread : read (.ofJson j) = .ok a := h
  simp [Http.readText, Draft.ofText_text hplain, hread, Bind.bind, Except.bind]

/-- What is read from a text is read from a draft. -/
theorem exists_draft_of_readText {read : Reader α} {s : String} {a : α}
    (h : Http.readText read s = .ok a) : ∃ d, read d = .ok a := by
  unfold Http.readText at h
  refine ⟨(Draft.ofText s).1, ?_⟩
  cases hread : read (Draft.ofText s).1 with
  | error e => simp [hread, Bind.bind, Except.bind] at h
  | ok b =>
    simp only [hread, Bind.bind, Except.bind] at h
    split at h
    · exact h
    · cases h

theorem Faithful.intro {write : α → Json} {read : Reader α} {kept : α → α}
    (hplain : ∀ a, Plain (write a)) (hreads : ∀ a, read.Reads (write a) (kept a))
    (hkept : ∀ d a, read d = .ok a → kept a = a) : Faithful write read kept := by
  have htext : ∀ a, Http.readText read (write a).text = .ok (kept a) :=
    fun a => readText_text (hplain a) (hreads a)
  have hretold : ∀ s a, Http.readText read s = .ok a →
      Http.readText read (write a).text = .ok a := by
    intro s a hs
    obtain ⟨d, hd⟩ := exists_draft_of_readText hs
    rw [htext, hkept d a hd]
  refine ⟨hreads, htext, fun d a hd => ?_, hretold, fun s t ht => ?_⟩
  · have hread : read (.ofJson (write a)) = .ok (kept a) := hreads a
    rw [hread, hkept d a hd]
  · unfold rewritten at ht ⊢
    cases hs : Http.readText read s with
    | error e => rw [hs] at ht; cases ht
    | ok a =>
      rw [hs] at ht
      cases ht
      rw [hretold s a hs]
      rfl

end

/-- **Reading undoes writing over the whole format.**  Money, addresses, products, lines
of orders, snapshots of lines, and everything that can happen are read back as they were
written, and so are orders, stores and customers but for what they had not told yet; and
what is written for anything that could be read is read as the same again. -/
theorem documents_faithful :
    Faithful Money.toJson Money.reader id ∧
    Faithful Address.toJson Address.reader id ∧
    Faithful Product.toJson Product.reader id ∧
    Faithful OrderLine.toJson OrderLine.reader id ∧
    Faithful LineSnapshot.toJson LineSnapshot.reader id ∧
    Faithful Order.toJson Order.reader Order.settled ∧
    Faithful Store.toJson Store.reader Store.settled ∧
    Faithful Customer.toJson Customer.reader Customer.settled ∧
    Faithful Payload.toJson Payload.reader id ∧
    Faithful Event.toJson Event.reader id := by
  refine ⟨?money, ?address, ?product, ?line, ?snapshot, ?order, ?store, ?customer, ?payload,
    ?event⟩
  case money => exact .intro Money.plain Money.reads fun _ _ _ => rfl
  case address => exact .intro Address.plain Address.reads fun _ _ _ => rfl
  case product => exact .intro Product.plain Product.reads fun _ _ _ => rfl
  case line => exact .intro OrderLine.plain OrderLine.reads fun _ _ _ => rfl
  case snapshot => exact .intro LineSnapshot.plain LineSnapshot.reads fun _ _ _ => rfl
  case order => exact .intro Order.plain Order.reads fun _ _ h => Order.settled_of_reader h
  case store => exact .intro Store.plain Store.reads fun _ _ h => Store.settled_of_reader h
  case customer =>
    exact .intro Customer.plain Customer.reads fun _ _ h => Customer.settled_of_reader h
  case payload => exact .intro Payload.plain Payload.reads fun _ _ _ => rfl
  case event => exact .intro Event.plain Event.reads fun _ _ _ => rfl

end Storefront
