/-! The words of a command, sorted by what they are. Options start with two dashes and take their
value after an equals sign or from the next word; two dashes alone end the options. A value that is
a word of its own does not start with a dash, unless it is nothing but a dash, or a negative number
where one is asked for. No option is given twice. -/
namespace Preimage.CommandLine

inductive Slot where
  | flag
  | text
  | number
deriving Repr, DecidableEq

/-- The options that a command knows, by name. -/
abbrev Slots := List (String × Slot)

/-- What was given, each kind in the order of the words. -/
structure Supplied where
  flags : List String := []
  values : List (String × String) := []
  operands : List String := []
deriving Repr, DecidableEq

namespace Supplied

def addFlag (supplied : Supplied) (name : String) : Option Supplied :=
  if supplied.flags.contains name then none
  else some { supplied with flags := supplied.flags ++ [name] }

def addValue (supplied : Supplied) (name value : String) : Option Supplied :=
  if (supplied.values.lookup name).isSome then none
  else some { supplied with values := supplied.values ++ [(name, value)] }

def addOperands (supplied : Supplied) (words : List String) : Supplied :=
  { supplied with operands := supplied.operands ++ words }

end Supplied

/-- Whether a word can be the value of the option before it. -/
def Slot.accepts (slot : Slot) (word : String) : Bool :=
  match word.toList with
  | '-' :: c :: _ => slot == .number && c.isDigit
  | _ => true

/-- The name of a long option, and the value after the first equals sign if there is one. -/
def splitValue (option : List Char) : String × Option String :=
  let name := option.takeWhile (· != '=')
  match option.drop name.length with
  | _ :: value => (.ofList name, some (.ofList value))
  | [] => (.ofList name, none)

/-- The flag that every command knows, in both its spellings. -/
def verboseName : String := "verbose"

def verboseLetter : Char := 'v'

/-- Flags of one letter, behind a single dash. -/
def addLetters (supplied : Supplied) (letters : List Char) : Option Supplied :=
  letters.foldlM (fun supplied letter =>
    if letter = verboseLetter then supplied.addFlag verboseName else none) supplied

/-- Sorts the words of a command, the first of them being the value of an option if one still waits
for its value. There is no answer if the words break a rule. -/
def sortWords (slots : Slots) :
    (waiting : Option (String × Slot)) → Supplied → List String → Option Supplied
  | none, supplied, [] => some supplied
  | some _, _, [] => none
  | some (name, slot), supplied, word :: rest =>
    if slot.accepts word then do sortWords slots none (← supplied.addValue name word) rest else none
  | none, supplied, word :: rest =>
    match word.toList with
    | ['-', '-'] => some (supplied.addOperands rest)
    | '-' :: '-' :: option =>
      let (name, value?) := splitValue option
      match slots.lookup name, value? with
      | some .flag, none => do sortWords slots none (← supplied.addFlag name) rest
      | some .flag, some _ => none
      | some slot, none => sortWords slots (some (name, slot)) supplied rest
      | some _, some value => do sortWords slots none (← supplied.addValue name value) rest
      | none, _ => none
    | '-' :: letter :: letters => do
      sortWords slots none (← addLetters supplied (letter :: letters)) rest
    | _ => sortWords slots none (supplied.addOperands [word]) rest

end Preimage.CommandLine
