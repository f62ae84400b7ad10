import Verdict.Value.Basic

/-!
# Resolution

`Value.operand` says what a value comes to in every role. A literal of the role's own kind is
itself. An address is looked up: nothing or null there is a missing value, another kind a mismatch.
A call is invoked and its reply resolved in the same role. Everything else is illegal. The recursion
follows the structure of values, so resolution always ends.

`Value.items` and `Call.invoke` answer values instead: the items of an array and the reply of a
call.
-/

set_option autoImplicit false

namespace Verdict

/-- Nothing and null count as missing. -/
def present? : Option Json → Option Json
  | some .null => none
  | found => found

/-- A script that looks an address up and reads what is there in one role. A value that is there but
cannot be read is a mismatch with the expected kind. -/
def Address.resolve {α : Type} (address : Address) (expected : JsonKind) (read : Json → Option α) :
    Script (Option α) :=
  .look address fun found =>
    match present? found with
    | none => .reportMissing (.missing address.text)
    | some json =>
        match read json with
        | some value => .done (some value)
        | none => .reportMissing (.mismatch address.text expected json.kind)

namespace Json

def string? : Json → Option String
  | .string text => some text
  | _ => none

def number? : Json → Option Number
  | .number value => some value.toNumber
  | _ => none

def boolean? : Json → Option Bool
  | .boolean truth => some truth
  | _ => none

def items? : Json → Option (List Json)
  | .array items => some items
  | _ => none

end Json

namespace Operand

/-- The operand of a literal scalar: it has its own role and that of a datum. -/
def scalar (kind : NodeKind) (string : Option String) (number : Option Number)
    (boolean : Option Bool) (datum : Datum) : Operand :=
  let orIllegal {α : Type} (wanted : JsonKind) : Option α → Script (Option α)
    | some value => .done (some value)
    | none => .reportIllegal (.unresolvable kind wanted)
  let text := orIllegal .string string
  { string := text
    number := orIllegal .number number
    boolean := orIllegal .boolean boolean
    datum := .done (some datum)
    items := .reportIllegal (.unresolvable kind .array)
    pathText := text
    pointerText := text }

def ofNumber (value : Number) : Operand := scalar .numeric none (some value) none (.number value)

def ofString (text : String) : Operand := scalar .string (some text) none none (.string text)

def ofBoolean (truth : Bool) : Operand := scalar .boolean none none (some truth) (.boolean truth)

def ofDatum (value : Datum) : Operand := scalar .object none none none value

/-- The operand of a literal array. As a datum it is the list of its items, null where an item could
not be resolved. -/
def ofArray (items : List Operand) : Operand :=
  let text := .reportIllegal (.unresolvable .array .string)
  { string := text
    number := .reportIllegal (.unresolvable .array .number)
    boolean := .reportIllegal (.unresolvable .array .boolean)
    datum :=
      (Script.sequence (items.map fun item => item.datum)).bind fun data =>
        .done (some (.list (data.map fun datum => datum.getD .null)))
    items := .done (some (items.map fun item => item.datum))
    pathText := text
    pointerText := text }

mutual

def ofJson : Json → Operand
  | .null => ofDatum .null
  | .boolean truth => ofBoolean truth
  | .number value => ofNumber value.toNumber
  | .string text => ofString text
  | .array items => ofArray (ofItems items)
  | .object fields => ofDatum (.json (.object fields))

def ofItems : List Json → List Operand
  | [] => []
  | item :: items => ofJson item :: ofItems items

end

/-- The operand of an address. Its text is at hand in its own dialect. -/
def ofAddress (address : Address) : Operand :=
  let text := address.resolve .string Json.string?
  { string := text
    number := address.resolve .number Json.number?
    boolean := address.resolve .boolean Json.boolean?
    datum := address.resolve .object fun json => some (Datum.ofJson json)
    items := address.resolve .array fun json =>
      json.items?.map fun items => items.map fun item => (ofJson item).datum
    pathText := match address with
      | .path place => .done (some place.text)
      | .pointer _ => text
    pointerText := match address with
      | .path _ => text
      | .pointer place => .done (some place.text) }

/-- The operand that a script produces, in whatever role it is then resolved. -/
def chased (result : Script Operand) : Operand :=
  { string := result.bind fun operand => operand.string
    number := result.bind fun operand => operand.number
    boolean := result.bind fun operand => operand.boolean
    datum := result.bind fun operand => operand.datum
    items := result.bind fun operand => operand.items
    pathText := result.bind fun operand => operand.string
    pointerText := result.bind fun operand => operand.string }

def place (dialect : Dialect) (result : Script Operand) : Script (Option Address) :=
  (chased result).string.bind fun text =>
    match text with
    | none => .done none
    | some text =>
        match dialect.compile text with
        | .ok address => .done (some address)
        | .error defect => .reportIllegal (.malformedAddress text defect)

/-- The operand of an address that a script produces. Its text is the produced string. -/
def computed (dialect : Dialect) (result : Script Operand) : Operand :=
  let address := place dialect result
  let through {α : Type} (resolve : Operand → Script (Option α)) : Script (Option α) :=
    address.bind fun place =>
      match place with
      | none => .done none
      | some place => resolve (ofAddress place)
  { string := through fun operand => operand.string
    number := through fun operand => operand.number
    boolean := through fun operand => operand.boolean
    datum := through fun operand => operand.datum
    items := through fun operand => operand.items
    pathText := match dialect with
      | .path => (chased result).string
      | .pointer => through fun operand => operand.string
    pointerText := match dialect with
      | .path => through fun operand => operand.string
      | .pointer => (chased result).string }

end Operand

/-- The failure of a reply that names an argument which the call does not have. -/
def noArgument (index : Nat) : Error := .illegalEvaluation (.other s!"no argument {index}")

def answered {α : Type} (members : List α) (index : Nat) : Script α :=
  match members[index]? with
  | some member => .done member
  | none => .fail (noArgument index)

mutual

/-- The operand of a reply, given those of the arguments and of what is attached. -/
def Reply.operand (arguments attached : List Operand) : Reply → Script Operand
  | .number value => .done (.ofNumber value)
  | .string text => .done (.ofString text)
  | .boolean truth => .done (.ofBoolean truth)
  | .datum value => .done (.ofDatum value)
  | .array items =>
      (Reply.operands arguments attached items).bind fun items => .done (.ofArray items)
  | .address place => .done (.ofAddress place)
  | .argument index => answered arguments index
  | .attached index => answered attached index

def Reply.operands (arguments attached : List Operand) : List Reply → Script (List Operand)
  | [] => .done []
  | reply :: replies =>
      (Reply.operand arguments attached reply).bind fun operand =>
        (Reply.operands arguments attached replies).bind fun operands =>
          .done (operand :: operands)

end

mutual

def Reply.value (arguments attached : List Value) : Reply → Script Value
  | .number value => .done (.number value)
  | .string text => .done (.string text)
  | .boolean truth => .done (.boolean truth)
  | .datum value => .done (.object value)
  | .array items => (Reply.values arguments attached items).bind fun items => .done (.array items)
  | .address place => .done (.located none place)
  | .argument index => answered arguments index
  | .attached index => answered attached index

def Reply.values (arguments attached : List Value) : List Reply → Script (List Value)
  | [] => .done []
  | reply :: replies =>
      (Reply.value arguments attached reply).bind fun value =>
        (Reply.values arguments attached replies).bind fun values => .done (value :: values)

end

mutual

/-- What a value comes to in every role. -/
def Value.operand : Value → Operand
  | .number value => .ofNumber value
  | .string text => .ofString text
  | .boolean truth => .ofBoolean truth
  | .array items => .ofArray (Value.operands items)
  | .object value => .ofDatum value
  | .located _ address => .ofAddress address
  | .computed _ dialect call => .computed dialect (Call.result call)
  | .called _ call => .chased (Call.result call)

def Value.operands : List Value → List Operand
  | [] => []
  | value :: values => Value.operand value :: Value.operands values

def Call.result : Call → Script Operand
  | .mk _ arguments _ attached implementation =>
      let operands := Value.operands arguments
      (implementation operands).bind (Reply.operand operands (Value.operands attached))

end

def Call.invoke : Call → Script Value
  | .mk _ arguments _ attached implementation =>
      (implementation (Value.operands arguments)).bind (Reply.value arguments attached)

def Address.items (address : Address) : Script (Option (List Value)) :=
  address.resolve .array fun json => json.items?.map Value.ofItems

mutual

/-- The items of the array that a value comes to, unresolved. -/
def Value.items : Value → Script (Option (List Value))
  | .array items => .done (some items)
  | .located _ address => address.items
  | .computed _ dialect call =>
      (Operand.place dialect (Call.result call)).bind fun place =>
        match place with
        | none => .done none
        | some address => address.items
  | .called _ call => Call.items call
  | .number _ => .reportIllegal (.unresolvable .numeric .array)
  | .string _ => .reportIllegal (.unresolvable .string .array)
  | .boolean _ => .reportIllegal (.unresolvable .boolean .array)
  | .object _ => .reportIllegal (.unresolvable .object .array)

def Value.itemsOfAll : List Value → List (Script (Option (List Value)))
  | [] => []
  | value :: values => Value.items value :: Value.itemsOfAll values

def Call.items : Call → Script (Option (List Value))
  | .mk _ arguments _ attached implementation =>
      let argumentItems := Value.itemsOfAll arguments
      let attachedItems := Value.itemsOfAll attached
      (implementation (Value.operands arguments)).bind fun reply =>
        match reply with
        | .number _ => .reportIllegal (.unresolvable .numeric .array)
        | .string _ => .reportIllegal (.unresolvable .string .array)
        | .boolean _ => .reportIllegal (.unresolvable .boolean .array)
        | .datum _ => .reportIllegal (.unresolvable .object .array)
        | .array items =>
            (Reply.values arguments attached items).bind fun values => .done (some values)
        | .address place => place.items
        | .argument index => (answered argumentItems index).bind id
        | .attached index => (answered attachedItems index).bind id

end

namespace Operand

def stringOr (operand : Operand) (default : String) : Script String :=
  operand.string.bind fun text => .done (text.getD default)

def numberOr (operand : Operand) (default : Number) : Script Number :=
  operand.number.bind fun number => .done (number.getD default)

def booleanOr (operand : Operand) (default : Bool) : Script Bool :=
  operand.boolean.bind fun truth => .done (truth.getD default)

def datumOr (operand : Operand) (default : Datum) : Script Datum :=
  operand.datum.bind fun datum => .done (datum.getD default)

/-- The text of the address of a dialect that an operand stands for, without looking it up. -/
def addressText (dialect : Dialect) (operand : Operand) (default : String) : Script String :=
  (match dialect with
    | .path => operand.pathText
    | .pointer => operand.pointerText).bind fun text => .done (text.getD default)

/-- The items of an array, each resolved as a datum; null where one could not be resolved. -/
def flatten (operand : Operand) (default : List Datum) : Script (List Datum) :=
  operand.items.bind fun items =>
    match items with
    | none => .done default
    | some items =>
        Script.sequence (items.map fun item => item.bind fun datum => .done (datum.getD .null))

end Operand

namespace Value

def resolveString (value : Value) (default : String) : Script String :=
  value.operand.stringOr default

def resolveNumber (value : Value) (default : Number) : Script Number :=
  value.operand.numberOr default

def resolveBoolean (value : Value) (default : Bool) : Script Bool :=
  value.operand.booleanOr default

def resolveDatum (value : Value) (default : Datum) : Script Datum :=
  value.operand.datumOr default

def resolveAddressText (dialect : Dialect) (value : Value) (default : String) : Script String :=
  value.operand.addressText dialect default

def explode (value : Value) (default : List Value) : Script (List Value) :=
  value.items.bind fun items => .done (items.getD default)

def flatten (value : Value) (default : List Datum) : Script (List Datum) :=
  value.items.bind fun items =>
    match items with
    | none => .done default
    | some items => Script.sequence (items.map fun item => item.resolveDatum .null)

end Value

end Verdict
