import AssetAudit.CommandLine.Argument

namespace AssetAudit.CommandLine

/-! Reading the arguments of a command from left to right. -/

variable {σ : Type}

/-- How the options in one argument end. -/
inductive ClusterEnd (σ : Type) where
  | done
  /-- The last option has its value in the same argument. -/
  | given (form : OptionForm σ) (value : String)
  /-- The last option takes the next argument as its value. -/
  | awaiting (form : OptionForm σ)

/-- The options in one argument: those without values, and how they end. -/
structure Cluster (σ : Type) where
  switches : List (OptionForm σ)
  ending : ClusterEnd σ

namespace Cluster

/-- The options in an argument that starts with the short option `form` and goes on with further
characters.  Behind an option without a value each of them is the letter of another one. -/
def ofShort (forms : List (OptionForm σ)) (form : OptionForm σ) :
    List Char → Except UsageError (Cluster σ)
  | [] => if form.takesValue then .ok ⟨[], .awaiting form⟩ else .ok ⟨[form], .done⟩
  | c :: rest =>
      let value := String.ofList (c :: rest)
      if form.takesValue then .ok ⟨[], .given form value⟩
      else
        match OptionForm.spelled? forms ['-', c] with
        | none => .error (.unwantedValue form.label value)
        | some next => do
            let cluster ← ofShort forms next rest
            return { cluster with switches := form :: cluster.switches }

/-- The options in an argument that starts with `form`.  An empty value still is one. -/
def of (forms : List (OptionForm σ)) (form : OptionForm σ) (isShort : Bool)
    (value? : Option (List Char)) : Except UsageError (Cluster σ) :=
  match value? with
  | none => ofShort forms form []
  | some value =>
      if form.takesValue then .ok ⟨[], .given form (String.ofList value)⟩
      else if isShort && !value.isEmpty then ofShort forms form value
      else .error (.unwantedValue form.label (String.ofList value))

/-- What the options without values do, one after the other. -/
def turn (cluster : Cluster σ) (settings : σ) : Except Stop σ :=
  cluster.switches.foldlM (fun settings form => form.turn settings) settings

end Cluster

/-- The operands that a command takes. -/
inductive OperandShape where
  | one
  | atMostOne
  /-- The name of a command with everything behind it. -/
  | command
deriving DecidableEq

/-- How far the reading has come. -/
structure Reading (σ : Type) where
  settings : σ
  /-- The operands that were taken, once there are any. -/
  operands : Option (List String)
  /-- Arguments that nothing took. -/
  extras : List String

namespace Reading

def start (settings : σ) : Reading σ := ⟨settings, none, []⟩

def withExtra (reading : Reading σ) (text : String) : Reading σ :=
  { reading with extras := reading.extras ++ [text] }

/-- A command that needs its one operand must have got it. -/
def finish (shape : OperandShape) (reading : Reading σ) : Except Stop (Reading σ) :=
  if shape = .one ∧ reading.operands.isNone then .error (.refused .missingRoot) else .ok reading

/-- Takes in options, the last of which has a value. -/
def withValue (reading : Reading σ) (cluster : Cluster σ) (form : OptionForm σ)
    (value : String) : Except Stop (Reading σ) := do
  return { reading with settings := ← form.give value (← cluster.turn reading.settings) }

/-- Takes in the options of one argument.  The operand behind it is there for an option that
needs a value; the result tells whether it was taken. -/
def withCluster (reading : Reading σ) (cluster : Cluster σ) (operand? : Option String) :
    Except Stop (Reading σ × Bool) :=
  match cluster.ending, operand? with
  | .awaiting form, none => .error (.refused (.missingValue form.label))
  | .awaiting form, some value => do return (← reading.withValue cluster form value, true)
  | .given form value, _ => do return (← reading.withValue cluster form value, false)
  | .done, _ => do return ({ reading with settings := ← cluster.turn reading.settings }, false)

/-- Takes in the options of an argument, of which the operand behind it may be the value. -/
def withOptions (reading : Reading σ) (cluster : Except UsageError (Cluster σ))
    (operand? : Option String) : Except Stop (Reading σ × Bool) :=
  match cluster with
  | .error error => .error (.refused error)
  | .ok cluster => reading.withCluster cluster operand?

/-- Takes in the remaining arguments.  Options may stand before and behind the operands, and the
separator goes with an operand beside it. -/
def readFrom (forms : List (OptionForm σ)) (shape : OperandShape) (reading : Reading σ) :
    List (Argument σ) → Except Stop (Reading σ)
  | [] => reading.finish shape
  | .unknown text :: rest => readFrom forms shape (reading.withExtra text) rest
  | .option form isShort value? _ :: rest =>
      let cluster := Cluster.of forms form isShort value?
      match rest with
      | .operand value :: behind =>
          match reading.withOptions cluster (some value) with
          | .error stop => .error stop
          | .ok (next, true) => readFrom forms shape next behind
          | .ok (next, false) => readFrom forms shape next (.operand value :: behind)
      | rest =>
          match reading.withOptions cluster none with
          | .error stop => .error stop
          | .ok (next, _) => readFrom forms shape next rest
  | .operand text :: rest =>
      match reading.operands, shape with
      | some _, _ => readFrom forms shape (reading.withExtra text) rest
      | none, .command => .ok { reading with operands := some (text :: rest.map Argument.text) }
      | none, _ =>
          let taken := { reading with operands := some [text] }
          match rest with
          | .separator :: behind => readFrom forms shape taken behind
          | rest => readFrom forms shape taken rest
  | .separator :: rest =>
      match reading.operands, shape, rest with
      | some _, _, _ => readFrom forms shape (reading.withExtra "--") rest
      | none, .atMostOne, _ => readFrom forms shape reading rest
      | none, .one, _ :: _ => readFrom forms shape reading rest
      | none, .command, _ :: _ =>
          .ok { reading with operands := some ("--" :: rest.map Argument.text) }
      | none, _, [] => readFrom forms shape (reading.withExtra "--") rest

/-- Reads the arguments of a command with certain options and operands. -/
def ofArguments (forms : List (OptionForm σ)) (shape : OperandShape) (settings : σ)
    (arguments : List String) : Except Stop (Reading σ) :=
  match Argument.ofTexts forms arguments with
  | .error error => .error (.refused error)
  | .ok arguments => readFrom forms shape (start settings) arguments

end Reading

end AssetAudit.CommandLine
