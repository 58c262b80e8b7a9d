import Launchpad.Scenario.Container

/-!
# Scripts on bootstrap stores

The steps that a script can take on a bootstrap store. Described instances are numbers of a few
widths, and texts; a number is cut to the width of its type.
-/

namespace Launchpad.Scenario

/-- The full name of a type. -/
def typeName (short : String) : String :=
  if short = "string" then "alloc::string::String" else short

/-- The number of a type that agrees with a given one in all the bits that the type has. -/
def cutTo (type : String) (number : Int) : Int :=
  match type with
  | "u8" => number % UInt8.size
  | "u16" => number % UInt16.size
  | "i32" => number.bmod UInt32.size
  | _ => number

/-- The value of a type that a datum stands for. Only numbers of 64 bits stand for numbers, and what
is no text stands for its notation. -/
def typedValue (type : String) (datum : Datum) : Value :=
  match type, datum with
  | "string", .text text => .text text
  | "string", datum => .text datum.notated
  | type, datum => .number type (cutTo type datum.asNumber)

/-- The supplier that a step registers: an existing instance, or a participant that follows the
step. -/
def supplierOf (step : Datum) : Program InstanceSupplier := do
  let supply ←
    if step.has "from" then pure (Supply.custom (script step))
    else do
      let held ← run (.makeInstance (typedValue (step.textAt "type") (step.field "value")))
      pure (Supply.existing held)
  return {
    supply
    scope := if step.textAt "scope" = "prototype" then .prototype else .singleton
    onClose := if step.has "on_close" then some (script (step.field "on_close")) else none }

/-- Supplies an instance as a registration describes. The supplier counts its calls. -/
def supplyValue (store : StoreRef) (step : Datum) : Attempt Value := do
  let short := step.textAt "type"
  let key := keyOf "supply" (toString store.index) short
  let count := ((← rememberedNumber key).getD 0) + 1
  run (.remember key count)
  say ["supply", short, count]
  let given := typedValue short (step.field "value")
  let counted := typedValue short count
  match step.textAt "from" with
  | "count" => return counted
  | "fail" =>
    if (step.numberAt? "times").all fun times => (count : Int) ≤ times then
      throw (failureAt step "error")
    else return given
  | "read" =>
    let other ← need (run (.read store (typeName (step.textAt "other"))))
    return typedValue short other.value
  | "self" =>
    if count = 1 then
      let _ ← need (run (.read store (typeName short)))
    return counted
  | _ => return given

/-- Closes a store over a described container. Who closes it sees the beans of a plain container. -/
def closeStore (store : StoreRef) (step : Datum) : Attempt Unit := do
  let ref := (← makeContainerAt step "ctx").ref
  let result ← ExceptT.lift (run (.closeStore store ref))
  let container ← run (.container ref)
  if isPlain container then say ["beans", container.beanNames]
  MonadExcept.ofExcept result

/-- Takes a step on a bootstrap store. -/
def storeStep (store : StoreRef) (step : Datum) : Attempt Datum := do
  let short := step.textAt "type"
  let type := typeName short
  match step.textAt "do" with
  | "register" =>
    let _ ← need (run (.register store type (← supplierOf step) false))
    shown (pure ())
  | "register_if_absent" => shown (need (run (.register store type (← supplierOf step) true)))
  | "is_registered" => return (← run (.store store)).isRegistered type
  | "get" => return (← need (run (.read store type))).value
  | "get_or_else" =>
    let other := typedValue short (step.field "value")
    return (← need (run (.readOr store type other))).value
  | "get_twice_same" =>
    let first ← need (run (.read store type))
    let second ← need (run (.read store type))
    return decide (first.identity = second.identity)
  | "close_listener" => shown (need (run (.listen store (script step))))
  | "is_closed" => return (← run (.store store)).closed
  | "close" => shown (closeStore store step)
  | "fail" => throw (failureAt step "error")
  | _ => return .nothing

/-- Takes steps on a bootstrap store, with a remark on each. -/
def storeSteps (store : StoreRef) : List Datum → Attempt Unit := nested "boot" (storeStep store)

end Launchpad.Scenario
