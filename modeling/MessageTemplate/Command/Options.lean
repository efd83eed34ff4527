import MessageTemplate.Text.Revealed

/-!
# Command line options

An option is a letter after one dash or a word after two. Letters may stand together after one
dash. The value of an option follows in the same argument, after a letter at once or after an `=`,
or else it is the next argument. The argument `--` ends the options, and a single dash is no option.

* `Item`: what the arguments say, item by item. `Item.ofArguments`: the items of a list of
  arguments. Nothing is read after a fault or after an item that ends the reading.
* `Request`: what is to be done. `Request.ofItems`: the first positional argument is the template,
  properties add up, of several settings files the last one counts, and the first item that asks for
  help or for the version, or is a fault, decides.
* `Options.ofItems`: the options of items, each kind of items on its own.
  **`Request.eq_ofItems_of_run`**: these are what a template is rendered with.
-/

namespace MessageTemplate

/-- The options without a value. -/
inductive Flag where
  | tokens
  | debug
  | help
  | version
  deriving Repr, DecidableEq

/-- The options with a value. -/
inductive Field where
  | property
  | config
  deriving Repr, DecidableEq

/-- An option. -/
inductive Switch where
  | flag (f : Flag)
  | field (f : Field)
  deriving Repr, DecidableEq

namespace Switch

/-- The option of a letter. -/
def ofLetter? : Char → Option Switch
  | 'p' => some (field .property)
  | 't' => some (flag .tokens)
  | 'c' => some (field .config)
  | 'd' => some (flag .debug)
  | 'h' => some (flag .help)
  | 'V' => some (flag .version)
  | _ => none

/-- The words for the options. -/
def words : List (Text × Switch) := [
  ("property".toList, field .property), ("tokens".toList, flag .tokens),
  ("config".toList, field .config), ("debug".toList, flag .debug),
  ("help".toList, flag .help), ("version".toList, flag .version)]

/-- The option of a word. -/
def ofWord? (word : Text) : Option Switch := words.lookup word

end Switch

/-- What is wrong with an argument. -/
inductive Fault where
  /-- The option has a value but the arguments are over. -/
  | missing (option : Text)
  /-- The option has no value but one is given. -/
  | unexpected (option value : Text)
  /-- There is no such option. -/
  | unknown (option : Text)
  deriving Repr, DecidableEq

/-- The wording of a fault. -/
def Fault.message : Fault → String
  | missing option => "missing argument for option '" ++ String.ofList option ++ "'"
  | unexpected option value =>
    "unexpected argument for option '" ++ String.ofList option ++ "': " ++
      String.ofList (Revealed.quote value)
  | unknown option => "invalid option '" ++ String.ofList option ++ "'"

/-- What an argument, or an option with its value, says. -/
inductive Item where
  | positional (t : Text)
  | flag (f : Flag)
  | field (f : Field) (value : Text)
  | fault (f : Fault)
  deriving Repr, DecidableEq

namespace Item

/-- How the reading goes on after an argument. -/
inductive Next where
  /-- With the next argument. -/
  | more
  /-- With the next argument as the value of an option. -/
  | value (f : Field) (option : Text)
  /-- Not at all. -/
  | stop
  deriving Repr, DecidableEq

/-- Help and version end the reading. -/
def endsReading : Flag → Bool
  | .help | .version => true
  | .tokens | .debug => false

/-- The items of the letters after one dash. -/
def ofLetters : Text → List Item × Next
  | [] => ([], .more)
  | c :: cs =>
    match Switch.ofLetter? c, cs with
    | none, _ => ([fault (.unknown ['-', c])], .stop)
    | some (.field f), [] => ([], .value f ['-', c])
    | some (.field f), '=' :: value => ([field f value], .more)
    | some (.field f), value => ([field f value], .more)
    | some (.flag f), cs =>
      if endsReading f then ([flag f], .stop)
      else match cs with
        | '=' :: value => ([flag f, fault (.unexpected ['-', c] value)], .stop)
        | cs => (flag f :: (ofLetters cs).1, (ofLetters cs).2)

/-- The items of the word after two dashes, with what follows an `=` if there is one. -/
def ofWord (word : Text) (value : Option Text) : List Item × Next :=
  match Switch.ofWord? word, value with
  | none, _ => ([fault (.unknown ('-' :: '-' :: word))], .stop)
  | some (.field f), none => ([], .value f ('-' :: '-' :: word))
  | some (.field f), some value => ([field f value], .more)
  | some (.flag f), none => ([flag f], if endsReading f then .stop else .more)
  | some (.flag f), some value =>
    if endsReading f then ([flag f], .stop)
    else ([flag f, fault (.unexpected ('-' :: '-' :: word) value)], .stop)

/-- The items of one argument other than `--`. -/
def ofArgument : Text → List Item × Next
  | '-' :: '-' :: t => ofWord (Text.splitFirst '=' t).1 (Text.splitFirst '=' t).2
  | '-' :: c :: cs => ofLetters (c :: cs)
  | t => ([positional t], .more)

/-- The items of a list of arguments. -/
def ofArguments : List Text → List Item
  | [] => []
  | a :: rest =>
    if a = ['-', '-'] then rest.map positional
    else match ofArgument a, rest with
      | (items, .more), rest => items ++ ofArguments rest
      | (items, .value _ option), [] => items ++ [fault (.missing option)]
      | (items, .value f _), value :: rest => items ++ field f value :: ofArguments rest
      | (items, .stop), _ => items

end Item

/-- What the options ask for. -/
structure Options where
  /-- The first positional argument. -/
  template : Option Text := none
  /-- The arguments that are properties, in order. -/
  properties : List Text := []
  /-- Whether the tokens are to be described instead of a rendering. -/
  tokens : Bool := false
  /-- The path of the settings file. -/
  config : Option Text := none
  /-- Whether the work of the cache is to be reported. -/
  debug : Bool := false
  deriving Repr, DecidableEq

/-- What is to be done. -/
inductive Request where
  | help
  | version
  | run (options : Options)
  deriving Repr, DecidableEq

namespace Request

/-- What the items ask for, beyond what is asked for already. -/
def extend (o : Options) : List Item → Except Fault Request
  | [] => .ok (run o)
  | .positional t :: is => extend { o with template := o.template.or (some t) } is
  | .field .property v :: is => extend { o with properties := o.properties ++ [v] } is
  | .field .config v :: is => extend { o with config := some v } is
  | .flag .tokens :: is => extend { o with tokens := true } is
  | .flag .debug :: is => extend { o with debug := true } is
  | .flag .help :: _ => .ok help
  | .flag .version :: _ => .ok version
  | .fault f :: _ => .error f

/-- What the items ask for. -/
def ofItems (items : List Item) : Except Fault Request := extend {} items

/-- What the arguments ask for. -/
def ofArguments (arguments : List Text) : Except Fault Request :=
  ofItems (Item.ofArguments arguments)

end Request

/-! ## Each kind of items on its own -/

namespace Item

/-- The text of a positional argument. -/
def positional? : Item → Option Text
  | positional t => some t
  | _ => none

/-- The value that is given to an option. -/
def valueOf? (f : Field) : Item → Option Text
  | field g value => if g = f then some value else none
  | _ => none

end Item

namespace Options

/-- The first positional argument, all properties in order, the last settings file, and the flags
that occur. -/
def ofItems (items : List Item) : Options where
  template := (items.filterMap Item.positional?).head?
  properties := items.filterMap (Item.valueOf? .property)
  tokens := items.contains (.flag .tokens)
  config := (items.filterMap (Item.valueOf? .config)).getLast?
  debug := items.contains (.flag .debug)

/-- What is asked for first, and what is asked for beyond it. -/
def andThen (o p : Options) : Options where
  template := o.template.or p.template
  properties := o.properties ++ p.properties
  tokens := o.tokens || p.tokens
  config := p.config.or o.config
  debug := o.debug || p.debug

end Options

namespace Request

theorem eq_andThen_of_extend {o r : Options} {items : List Item}
    (h : extend o items = .ok (run r)) : r = o.andThen (.ofItems items) := by
  induction items generalizing o with
  | nil =>
    cases h
    simp [Options.andThen, Options.ofItems]
  | cons i items ih =>
    cases i with
    | positional t =>
      rw [ih h]
      simp [Options.andThen, Options.ofItems, List.filterMap_cons, Item.positional?, Item.valueOf?]
    | flag f =>
      cases f with
      | tokens | debug =>
        rw [ih h]
        simp [Options.andThen, Options.ofItems, List.filterMap_cons, Item.positional?,
          Item.valueOf?]
      | help | version => cases h
    | field f value =>
      cases f with
      | property | config =>
        rw [ih h]
        simp [Options.andThen, Options.ofItems, List.findSome?_cons, List.getLast?_cons,
          Item.positional?, Item.valueOf?]
    | fault f => cases h

/-- **Items of each kind go their own way.** -/
theorem eq_ofItems_of_run {items : List Item} {o : Options} (h : ofItems items = .ok (run o)) :
    o = .ofItems items := by
  rw [eq_andThen_of_extend h]
  simp [Options.andThen, Options.ofItems]

end Request

end MessageTemplate
