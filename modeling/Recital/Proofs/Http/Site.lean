import Recital.Proofs.Http.Effect
import Recital.Proofs.Outcome

/-!
# What a request asks for

An order is read off the method and the path of a request, and sometimes off its body.

* `Request.Asks` : the request has a method, and its path names a place of an id.
* `Order.site?` : the method, the place and the id of the orders that write what has that id.
* `Order.makes?` : the kind of which an order makes a new entity.
* `Gives` : what a method gives at a place.  `gives_of_order` : so is the order of every request.
* `isReading_of_order`, `isReading_eq_false_of_order` : the requests of the reading methods give reading
  orders, and those of the other methods do not.
* `asks_of_order` : only a request that asks for what has an id gives an order that writes it.
* `order_of_asks_get`, `order_of_asks_delete`, `order_of_asks_status` : and where no body is needed, the order
  is known.
-/

set_option autoImplicit false

namespace Recital.Http

/-- What the path of a request names. -/
def Request.place? (request : Request) : Option Place :=
  Place.ofPath? (Http.target request.target).1

/-- The request has the method, and its path names the place of the id. -/
structure Request.Asks (request : Request) (method : Method) (place : Parameter → Place) (id : Int) :
    Prop where
  method : Method.ofName? request.method = some method
  place : ∃ p, request.place? = some (place p) ∧ Request.parameterId p = .ok id

/-- The order that asks for a status of an event. -/
def EventOrder.moving (id : Int) : Status → EventOrder
  | .draft => .draft id
  | .published => .publish id
  | .archived => .archive id

theorem EventOrder.moving_inj {id id' : Int} {status status' : Status}
    (h : moving id status = moving id' status') : id = id' ∧ status = status' := by
  cases status <;> cases status' <;> cases h <;> exact ⟨rfl, rfl⟩

/-- The method, the place and the id of an order that writes what has that id. -/
def Order.site? : Order → Option (Method × (Parameter → Place) × Int)
  | .composer (.update id _) => some (.put, .member .composer, id)
  | .composer (.delete id) => some (.delete, .member .composer, id)
  | .piece (.update id _) => some (.put, .member .piece, id)
  | .piece (.delete id) => some (.delete, .member .piece, id)
  | .venue (.update id _) => some (.put, .member .venue, id)
  | .venue (.delete id) => some (.delete, .member .venue, id)
  | .programme (.update id _) => some (.put, .member .programme, id)
  | .programme (.replacePieces id _) => some (.put, .programmePieces, id)
  | .programme (.delete id) => some (.delete, .member .programme, id)
  | .event (.update id _) => some (.put, .member .event, id)
  | .event (.updateNotes id _) => some (.put, .eventNotes, id)
  | .event (.draft id) => some (.put, .eventStatus .draft, id)
  | .event (.publish id) => some (.put, .eventStatus .published, id)
  | .event (.archive id) => some (.put, .eventStatus .archived, id)
  | .event (.delete id) => some (.delete, .member .event, id)
  | _ => none

/-- The kind of which an order makes a new entity. -/
def Order.makes? : Order → Option Kind
  | .composer (.create _) => some .composer
  | .piece (.create _) => some .piece
  | .venue (.create _) => some .venue
  | .programme (.create _) => some .programme
  | .event (.create _) => some .event
  | _ => none

theorem site?_moving (id : Int) (status : Status) :
    (Order.event (.moving id status)).site? = some (.put, .eventStatus status, id) := by
  cases status <;> rfl

/-- What a method at a place gives: something is shown or made, or what has the id of the place is written,
or a biography. -/
inductive Gives : Method → Place → Order → Prop where
  | shows {place : Place} {order : Order} (h : order.isReading = true) : Gives .get place order
  | makes {kind : Kind} {order : Order} (h : order.makes? = some kind) :
      Gives .post (.collection kind) order
  | writes {method : Method} {place : Parameter → Place} {id : Int} {p : Parameter} {order : Order}
      (hsite : order.site? = some (method, place, id)) (hid : Request.parameterId p = .ok id) :
      Gives method (place p) order
  | tells {p : Parameter} {variant content : String} (h : Request.parameterText p = .ok variant) :
      Gives .put (.biography p) (.updateBiography variant content)

variable {request : Request} {order : Order} {method : Method} {place : Place} {id : Int}

theorem Order.makes?_of_isReading (h : order.isReading = true) : order.makes? = none := by
  unfold Order.makes?
  split <;> first | rfl | cases h

theorem Order.site?_of_isReading (h : order.isReading = true) : order.site? = none := by
  unfold Order.site?
  split <;> first | rfl | cases h

theorem Order.site?_of_makes {kind : Kind} (h : order.makes? = some kind) : order.site? = none := by
  unfold Order.site?
  split <;> first | rfl | cases h

theorem Order.ne_get_of_site {site : Method × (Parameter → Place) × Int}
    (h : order.site? = some site) : site.1 ≠ .get := by
  unfold Order.site? at h
  split at h <;> cases h <;> exact nofun

/-- A parameter that must be an id. -/
theorem gives_of_map {f : Int → Order} {site : Parameter → Place} {p : Parameter}
    (h : (Request.parameterId p).map f = .ok order)
    (hsite : ∀ id, (f id).site? = some (method, site, id)) : Gives method (site p) order := by
  obtain ⟨id, hid, rfl⟩ := map_eq_ok_iff.1 h
  exact .writes (hsite id) hid

/-- A parameter that must be an id, and a body. -/
theorem gives_of_bind {α : Type} {f : Int → α → Order} {body : Int → Understood α}
    {site : Parameter → Place} {p : Parameter}
    (h : (Request.parameterId p >>= fun id => (body id).map (f id)) = .ok order)
    (hsite : ∀ id a, (f id a).site? = some (method, site, id)) : Gives method (site p) order := by
  obtain ⟨id, hid, h⟩ := bind_eq_ok_iff.1 h
  obtain ⟨a, -, rfl⟩ := map_eq_ok_iff.1 h
  exact .writes (hsite id a) hid

theorem shows_of_map {α : Type} {u : Understood α} {f : α → Order} (h : u.map f = .ok order)
    (hf : ∀ a, (f a).isReading = true) : Gives .get place order := by
  obtain ⟨a, -, rfl⟩ := map_eq_ok_iff.1 h
  exact .shows (hf a)

theorem makes_of_map {α : Type} {u : Understood α} {f : α → Order} {kind : Kind}
    (h : u.map f = .ok order) (hf : ∀ a, (f a).makes? = some kind) :
    Gives .post (.collection kind) order := by
  obtain ⟨a, -, rfl⟩ := map_eq_ok_iff.1 h
  exact .makes (hf a)

theorem gives_of_collectionOrder {query : List Char} {kind : Kind}
    (h : request.collectionOrder query kind method = .ok order) :
    Gives method (.collection kind) order := by
  cases method with
  | get =>
    cases kind with
    | event => exact shows_of_map h fun _ => rfl
    | _ =>
      cases h
      exact .shows rfl
  | post => cases kind <;> exact makes_of_map h fun _ => rfl
  | put => cases kind <;> cases h
  | delete => cases kind <;> cases h

theorem gives_of_memberOrder {kind : Kind} {p : Parameter}
    (h : request.memberOrder kind p method = .ok order) : Gives method (.member kind p) order := by
  cases method with
  | get =>
    refine shows_of_map h fun id => ?_
    cases kind <;> rfl
  | post => cases h
  | put => cases kind <;> exact gives_of_bind h fun _ _ => rfl
  | delete =>
    refine gives_of_map h fun id => ?_
    cases kind <;> rfl

/-- **What a method gives at every place.** -/
theorem gives_of_placeOrder {query : List Char}
    (h : request.placeOrder query place method = .ok order) : Gives method place order := by
  cases place with
  | health =>
    cases method with
    | get =>
      cases h
      exact .shows rfl
    | _ => cases h
  | collection kind => exact gives_of_collectionOrder h
  | member kind p => exact gives_of_memberOrder h
  | programmeDetails p =>
    cases method with
    | get => exact shows_of_map h fun _ => rfl
    | _ => cases h
  | programmePieces p =>
    cases method with
    | put => exact gives_of_bind h fun _ _ => rfl
    | _ => cases h
  | eventTimes =>
    cases method with
    | get => exact shows_of_map h fun _ => rfl
    | _ => cases h
  | eventNotes p =>
    cases method with
    | put => exact gives_of_bind h fun _ _ => rfl
    | _ => cases h
  | eventStatus status p =>
    cases method with
    | put => cases status <;> exact gives_of_map h fun _ => rfl
    | _ => cases status <;> cases h
  | biography p =>
    cases method with
    | get => exact shows_of_map h fun _ => rfl
    | put =>
      obtain ⟨variant, hvariant, h⟩ := bind_eq_ok_iff.1 h
      obtain ⟨content, -, rfl⟩ := map_eq_ok_iff.1 h
      exact .tells hvariant
    | _ => cases h

/-- An order is what the method and the place of its request give. -/
theorem gives_of_order (h : request.order = .ok order) :
    ∃ method place, Method.ofName? request.method = some method ∧ request.place? = some place ∧
      Gives method place order := by
  unfold Request.order at h
  simp only at h
  split at h
  · cases h
  · rename_i place hplace
    split at h
    · cases h
    · rename_i method hmethod
      exact ⟨method, place, hmethod, hplace, gives_of_placeOrder h⟩

/-- A reading method gives a reading order. -/
theorem isReading_of_order (hmethod : Method.ofName? request.method = some .get)
    (h : request.order = .ok order) : order.isReading = true := by
  obtain ⟨method, place, hmethod', -, hgives⟩ := gives_of_order h
  obtain rfl := Option.some.inj (hmethod.symm.trans hmethod')
  cases hgives with
  | shows h => exact h
  | writes hsite hid => exact absurd rfl (Order.ne_get_of_site hsite)

/-- Any other method does not. -/
theorem isReading_eq_false_of_order (hmethod : Method.ofName? request.method ≠ some .get)
    (h : request.order = .ok order) : order.isReading = false := by
  obtain ⟨method, place, hmethod', -, hgives⟩ := gives_of_order h
  refine Bool.eq_false_iff.2 fun hreading => ?_
  cases hgives with
  | shows _ => exact hmethod hmethod'
  | makes hmakes => cases (Order.makes?_of_isReading hreading).symm.trans hmakes
  | writes hsite _ => cases (Order.site?_of_isReading hreading).symm.trans hsite
  | tells _ => cases hreading

/-- **Only a request that asks so gives an order that writes what has an id.** -/
theorem asks_of_order {site : Parameter → Place} (h : request.order = .ok order)
    (hsite : order.site? = some (method, site, id)) : request.Asks method site id := by
  obtain ⟨method', place, hmethod, hplace, hgives⟩ := gives_of_order h
  cases hgives with
  | shows h => cases (Order.site?_of_isReading h).symm.trans hsite
  | makes h => cases (Order.site?_of_makes h).symm.trans hsite
  | @writes _ _ _ p _ hsite' hid =>
    cases hsite.symm.trans hsite'
    exact ⟨hmethod, p, hplace, hid⟩
  | tells h => cases hsite

/-- What is ordered where the path names a place. -/
theorem order_eq_placeOrder (hplace : request.place? = some place)
    (hmethod : Method.ofName? request.method = some method) :
    request.order = request.placeOrder (target request.target).2 place method := by
  unfold Request.place? at hplace
  simp only [Request.order, hplace, hmethod]

theorem order_of_asks_get {kind : Kind} (h : request.Asks .get (.member kind) id) :
    request.order = .ok (Request.showOrder kind id) := by
  obtain ⟨hmethod, p, hplace, hid⟩ := h
  rw [order_eq_placeOrder hplace hmethod]
  simp only [Request.placeOrder, Request.memberOrder, hid, Except.map]

theorem order_of_asks_delete {kind : Kind} (h : request.Asks .delete (.member kind) id) :
    request.order = .ok (Request.deleteOrder kind id) := by
  obtain ⟨hmethod, p, hplace, hid⟩ := h
  rw [order_eq_placeOrder hplace hmethod]
  simp only [Request.placeOrder, Request.memberOrder, hid, Except.map]

theorem order_of_asks_status {status : Status} (h : request.Asks .put (.eventStatus status) id) :
    request.order = .ok (.event (.moving id status)) := by
  obtain ⟨hmethod, p, hplace, hid⟩ := h
  rw [order_eq_placeOrder hplace hmethod]
  cases status <;> simp only [Request.placeOrder, hid, Except.map] <;> rfl

end Recital.Http
