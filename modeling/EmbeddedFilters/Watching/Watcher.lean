import EmbeddedFilters.Options.Value

/-!
# Watchers

A watcher tells subscribers about new values of options. Subscribers of one option are told in the
order of their subscription. A callback that fails badly stops the announcement it runs in and
spoils the watcher for good; a watcher that is being torn down announces nothing any more.
-/

namespace EmbeddedFilters

/-- What a subscriber has asked for: a callback, which may fail badly, or values in a mailbox. -/
inductive Listener where
  | callback (label : String) (panics : Bool)
  | mailbox (number : Nat)
  deriving DecidableEq, Repr

/-- Does the listener fail badly when it is told? -/
def Listener.panics : Listener → Bool
  | .callback _ panics => panics
  | .mailbox _ => false

/-- A listener subscribed to an option. -/
structure Subscriber where
  id : OptionId
  token : Nat
  listener : Listener
  deriving DecidableEq, Repr

/-- What a subscriber holds on to. -/
structure Subscription where
  id : OptionId
  token : Nat
  deriving DecidableEq, Repr

def Subscription.describe (s : Subscription) : String :=
  "Subscription \x7b id: OptionId(" ++ toString s.id.value.toNat ++ "), token: "
    ++ toString s.token ++ ", active: true \x7d"

/-- A listener that has been told a value. -/
structure Delivery where
  listener : Listener
  id : OptionId
  value : OptionValue
  deriving DecidableEq

/-- The new value of an option. -/
abbrev Change := OptionId × OptionValue

/-- The subscribers of all options, in the order of their subscription. -/
structure Watcher where
  subscribers : List Subscriber := []
  nextToken : Nat := 0
  closing : Bool := false
  poisoned : Bool := false
  deriving DecidableEq, Repr

/-- What a change leaves behind, the listeners it has told, and whether the last of them failed
badly. -/
structure Told (α : Type) where
  state : α
  deliveries : List Delivery := []
  panicked : Bool := false

/-- The same deliveries with another view of what is left behind. -/
def Told.map {α β : Type} (f : α → β) (t : Told α) : Told β := ⟨f t.state, t.deliveries, t.panicked⟩

namespace Watcher

/-- Subscribes a listener to an option. -/
def subscribe (w : Watcher) (id : OptionId) (listener : Listener) :
    Except FilterError (Subscription × Watcher) :=
  if w.poisoned then .error .lockPoisoned
  else if w.closing then .error (.destroyed s!"watcher of {id.label}")
  else .ok (⟨id, w.nextToken⟩,
    { w with
      subscribers := w.subscribers ++ [⟨id, w.nextToken, listener⟩]
      nextToken := w.nextToken + 1 })

def cancel (w : Watcher) (s : Subscription) : Watcher :=
  if w.poisoned then w
  else { w with subscribers := w.subscribers.filter fun m => !(m.id == s.id && m.token == s.token) }

/-- The deliveries due for a list of changes: change by change, subscriber by subscriber. -/
def due (w : Watcher) (changes : List Change) : List Delivery :=
  changes.flatMap fun (id, value) =>
    (w.subscribers.filter (·.id == id)).map fun m => ⟨m.listener, id, value⟩

/-- The deliveries that happen: all that are due, up to the first that fails badly. -/
def untilPanic : List Delivery → List Delivery × Bool
  | [] => ([], false)
  | d :: rest =>
    if d.listener.panics then ([d], true)
    else
      let (told, panicked) := untilPanic rest
      (d :: told, panicked)

def announce (w : Watcher) (changes : List Change) : Told Watcher :=
  if w.poisoned || w.closing then ⟨w, [], false⟩
  else
    let (told, panicked) := untilPanic (w.due changes)
    ⟨{ w with poisoned := panicked }, told, panicked⟩

/-- Ends all subscriptions and refuses new ones. -/
def close (w : Watcher) : Watcher := { w with closing := true, subscribers := [] }

/-- Is the watcher being torn down, as far as anyone can tell? -/
def isClosing (w : Watcher) : Bool := w.poisoned || w.closing

def count (w : Watcher) (id : OptionId) : Nat :=
  if w.poisoned then 0 else w.subscribers.countP (·.id == id)

end Watcher

end EmbeddedFilters
