import CallSpan.Payload

/-!
# Messages in named slots

A **store** keeps messages in named slots. Messages can be put in, copied, wrapped
as the value of another message, asked for their kind, looked into and taken out.

* `SlotStep.take`  — what a step answers, and the store it leaves.
-/

namespace CallSpan.Scenario

/-- Messages under names. -/
abbrev Slots := List (String × Message)

namespace Slots

def find? (slots : Slots) (slot : String) : Option Message :=
  (List.find? (fun e => e.1 == slot) slots).map Prod.snd

def put (slots : Slots) (slot : String) (m : Message) : Slots :=
  (slot, m) :: slots.filter (·.1 != slot)

def clear (slots : Slots) (slot : String) : Slots :=
  slots.filter (·.1 != slot)

end Slots

inductive SlotStep where
  | new (slot : String) (m : Message)
  | copy (slot target : String)
  /-- Puts a message that holds the one in a slot into another slot. -/
  | wrap (slot target : String)
  | is (slot : String) (kind : Kind)
  | look (slot : String) (kind : Kind)
  /-- Looks into a message and empties its slot. -/
  | takeOut (slot : String) (kind : Kind)
  /-- Shows a message, on one line or broken over lines. -/
  | display (slot : String) (isBroken : Bool)

inductive SlotAnswer where
  | noSlot
  | message (m : Message)
  | truth (b : Bool)
  | value (kind : Kind) (v : Option (Value kind))
  | text (s : String)

/-- The answer about the message in a slot, if there is one. -/
def Slots.about (slots : Slots) (slot : String) (answer : Message → SlotAnswer × Slots) :
    SlotAnswer × Slots :=
  match slots.find? slot with
  | none => (.noSlot, slots)
  | some m => answer m

/-- What a step answers, and the store it leaves. -/
def SlotStep.take (slots : Slots) : SlotStep → SlotAnswer × Slots
  | new slot m => (.message m, slots.put slot m)
  | copy slot target => slots.about slot fun m => (.message m, slots.put target m)
  | wrap slot target => slots.about slot fun m =>
    (.message (Message.of m.asValue), slots.put target (Message.of m.asValue))
  | is slot kind => slots.about slot fun m => (.truth (m.is kind), slots)
  | look slot kind => slots.about slot fun m => (.value kind (m.value? kind), slots)
  | takeOut slot kind => slots.about slot fun m =>
    (.value kind (m.value? kind), slots.clear slot)
  | display slot isBroken => slots.about slot fun m =>
    (.text (if isBroken then m.display.broken else m.display.inline), slots)

def takeSlotSteps (slots : Slots) : List SlotStep → List SlotAnswer
  | [] => []
  | step :: steps =>
    let (answer, slots') := step.take slots
    answer :: takeSlotSteps slots' steps

end CallSpan.Scenario
