import EmbeddedFilters.Fault
import EmbeddedFilters.Table
import EmbeddedFilters.Watching.Watcher

/-!
# Watch desks

A desk keeps subscriptions to one watcher under tags, with a mailbox for each that asks for one, and
notes down the callbacks that have been told a value. The watcher may be taken away; subscriptions
and what lies in the mailboxes outlive it.
-/

namespace EmbeddedFilters

/-- A subscription kept at a desk, and its mailbox. -/
structure DeskWatch where
  subscription : Subscription
  mailbox? : Option Nat := none
  deriving DecidableEq, Repr

/-- A watcher with subscriptions under tags. -/
structure WatchDesk where
  watcher? : Option Watcher := some {}
  watches : Table String DeskWatch := {}
  mailboxes : Pool (List OptionValue) := {}
  told : List Delivery := []

namespace WatchDesk

/-- Operations at a desk. -/
abbrev Action := ExceptT Fault (StateM WatchDesk)

/-- The watcher, or the fault that it is gone. -/
def watcher (absent : Fault) : Action Watcher := do
  match (← get).watcher? with
  | some w => return w
  | none => throw absent

def putWatcher (w : Watcher) : Action Unit := modify fun d => { d with watcher? := some w }

def watch (tag : String) : Action DeskWatch := do
  match (← get).watches.get? tag with
  | some w => return w
  | none => throw (.noObject "tag")

/-- Ends a subscription, if the watcher is still there. -/
def endWatch (w : DeskWatch) : Action Unit :=
  modify fun d => { d with watcher? := d.watcher?.map fun watcher => watcher.cancel w.subscription }

/-- Subscribes a listener and keeps the subscription under a tag. What was kept there before ends
afterwards. -/
def keep (absent : Fault) (tag : String) (id : OptionId) (listener : Listener)
    (mailbox? : Option Nat) : Action Subscription := do
  match (← watcher absent).subscribe id listener with
  | .error e => throw (.filter e)
  | .ok (subscription, w) =>
    putWatcher w
    let earlier := (← get).watches.get? tag
    modify fun d => { d with watches := d.watches.put tag { subscription, mailbox? } }
    earlier.forM endWatch
    return subscription

def onChange (absent : Fault) (tag : String) (id : OptionId) (panics : Bool) :
    Action Subscription :=
  keep absent tag id (.callback tag panics) none

def collect (absent : Fault) (tag : String) (id : OptionId) : Action Unit := do
  let mailbox ← modifyGet fun d =>
    let (n, mailboxes) := d.mailboxes.add []
    (n, { d with mailboxes })
  let _ ← keep absent tag id (.mailbox mailbox) (some mailbox)

def mailbox (tag : String) : Action (Nat × List OptionValue) := do
  match (← watch tag).mailbox? with
  | none => throw (.noObject "tag")
  | some n => return (n, ((← get).mailboxes.get? n).getD [])

/-- Takes the next value out of a mailbox. -/
def next (tag : String) : Action (Option OptionValue) := do
  match ← mailbox tag with
  | (_, []) => return none
  | (n, value :: rest) =>
    modify fun d => { d with mailboxes := d.mailboxes.put n rest }
    return some value

def queued (tag : String) : Action Nat := do return (← mailbox tag).2.length

def cancel (tag : String) : Action Unit := do
  let w ← watch tag
  modify fun d => { d with watches := d.watches.erase tag }
  endWatch w

def tell (d : Delivery) : Action Unit :=
  match d.listener with
  | .callback _ _ => modify fun desk => { desk with told := desk.told ++ [d] }
  | .mailbox n =>
    modify fun desk => { desk with mailboxes := desk.mailboxes.modify n (· ++ [d.value]) }

/-- Announces changes, and gives the number of listeners told. -/
def dispatch (changes : List Change) : Action Nat := do
  let t := (← watcher (.noObject "watcher")).announce changes
  putWatcher t.state
  t.deliveries.forM tell
  if t.panicked then throw .panic
  return t.deliveries.length

/-- Ends all subscriptions and refuses new ones. -/
def close : Action Unit := do putWatcher (← watcher (.noObject "watcher")).close

/-- Is the watcher being torn down? -/
def isClosing : Action Bool := do return (← watcher (.noObject "watcher")).isClosing

def count (id : OptionId) : Action Nat := do return (← watcher (.noObject "watcher")).count id

def takeAway : Action Unit := do
  let _ ← watcher (.noObject "watcher")
  modify fun d => { d with watcher? := none }

/-- Runs an operation, and reads off the callbacks that have been told a value meanwhile. -/
def step {α : Type} (desk : WatchDesk) (act : Action α) :
    Except Fault α × List Delivery × WatchDesk :=
  let (result, desk) := act.run.run desk
  (result, desk.told, { desk with told := [] })

end WatchDesk

end EmbeddedFilters
