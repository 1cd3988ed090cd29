import InfoFlow.Sandbox.Regex
import InfoFlow.Sandbox.Utility.Reading

namespace InfoFlow.Sandbox

namespace Numbering

/-- Which lines are numbered. -/
inductive Choice where
  | all
  | filled
  | none
  | matching (regex : Regex)

/-- How the numbers stand in their columns. -/
inductive Format where
  | left
  | right
  | zeros

/-- A part of a page. -/
inductive Part where
  | header
  | body
  | footer
deriving DecidableEq

/-- How lines are numbered. -/
structure Wish where
  header : Choice := .none
  body : Choice := .filled
  footer : Choice := .none
  format : Format := .right
  width : Nat := 6
  separator : String := "\t"
  start : Int := 1
  step : Int := 1
  /-- How many blank lines together get one number. -/
  blanks : Nat := 1
  keepsNumbers : Bool := false
  mark : String := "\\:"

def Wish.choice (wish : Wish) : Part → Choice
  | .header => wish.header
  | .body => wish.body
  | .footer => wish.footer

/-- The part of a page that a line begins. -/
def Wish.part? (wish : Wish) (line : String) : Option Part :=
  if wish.mark.isEmpty then none
  else if line == wish.mark ++ wish.mark ++ wish.mark then some .header
  else if line == wish.mark ++ wish.mark then some .body
  else if line == wish.mark then some .footer
  else none

/-- A number in its columns. -/
def Wish.numberText (wish : Wish) (n : Int) : String :=
  let text := toString n
  let pad (c : Char) : String := String.ofList (List.replicate (wish.width - text.length) c)
  match wish.format with
  | .left => text ++ pad ' '
  | .right => pad ' ' ++ text
  | .zeros =>
    if n < 0 then "-" ++ pad '0' ++ toString n.natAbs else pad '0' ++ text

/-- Numbers lines: from a number on, in a part of a page, after a number of blank lines. -/
def Wish.text (wish : Wish) : Int → Part → Nat → List String → String
  | _, _, _, [] => ""
  | n, part, blanks, line :: rest =>
    match wish.part? line with
    | some part => "\n" ++ wish.text (if wish.keepsNumbers then n else wish.start) part blanks rest
    | none =>
      let isBlank := line.isEmpty
      let (isNumbered, blanks) : Bool × Nat :=
        match wish.choice part with
        | .all =>
          if wish.blanks ≤ 1 || !isBlank || blanks == wish.blanks then (true, 1)
          else (false, blanks + 1)
        | .filled => (!isBlank, blanks)
        | .none => (false, blanks)
        | .matching regex => (regex.occurs (Regex.Subject.ofText line.toList), blanks)
      let label :=
        if isNumbered then wish.numberText n ++ wish.separator
        else String.ofList (List.replicate (wish.width + wish.separator.length) ' ')
      label ++ line ++ "\n" ++
        wish.text (if isNumbered then n + wish.step else n) part blanks rest

/-- Which lines a text chooses. -/
def choice? (text : String) : Option Choice :=
  match text.toList with
  | 'a' :: _ => some .all
  | 't' :: _ => some .filled
  | 'n' :: _ => some .none
  | 'p' :: rest => (Regex.ofText .plain rest).toOption.map .matching
  | _ => none

/-- What is wrong with a wish: something that is told before the other switches are read, or one of
    several things that are told together. -/
inductive Flaw where
  | fatal (message : String)
  | style (message : String)

/-- A wish with a switch. -/
def Wish.add (wish : Wish) (letter : Char) (text : String) : Except Flaw Wish :=
  let chosen (what : String) (add : Choice → Wish) : Except Flaw Wish :=
    match choice? text with
    | some choice => .ok (add choice)
    | none => .error (.style ("invalid " ++ what ++ " numbering style: " ++ quotedWord text))
  let whole (what : String) (add : Int → Wish) : Except Flaw Wish :=
    match (if text.toList.head? == some '+' then (text.drop 1).toString else text).toInt? with
    | some n => .ok (add n)
    | none => .error (.fatal ("invalid " ++ what ++ ": " ++ quotedWord text))
  let positive (what : String) (add : Nat → Wish) : Except Flaw Wish :=
    match text.toInt? with
    | some n =>
      if n > 0 then .ok (add n.toNat)
      else .error (.fatal ("invalid " ++ what ++ ": " ++ quotedWord text ++
        ": Numerical result out of range"))
    | none => .error (.fatal ("invalid " ++ what ++ ": " ++ quotedWord text))
  match letter with
  | 'h' => chosen "header" fun choice => { wish with header := choice }
  | 'b' => chosen "body" fun choice => { wish with body := choice }
  | 'f' => chosen "footer" fun choice => { wish with footer := choice }
  | 'v' => whole "starting line number" fun n => { wish with start := n }
  | 'i' => whole "line number increment" fun n => { wish with step := n }
  | 'p' => .ok { wish with keepsNumbers := true }
  | 'l' => positive "line number of blank lines" fun n => { wish with blanks := n }
  | 's' => .ok { wish with separator := text }
  | 'w' => positive "line number field width" fun n => { wish with width := n }
  | 'n' =>
    match text with
    | "ln" => .ok { wish with format := .left }
    | "rn" => .ok { wish with format := .right }
    | "rz" => .ok { wish with format := .zeros }
    | _ => .error (.style ("invalid line numbering format: " ++ quotedWord text))
  | 'd' => .ok { wish with mark := if text.length == 1 then text ++ ":" else text }
  | _ => .ok wish

end Numbering

open Sandbox.Numbering in
def numberLines : Program :=
  Usage.program {
    switches := [⟨'h', ["header-numbering"], .always⟩, ⟨'b', ["body-numbering"], .always⟩,
      ⟨'f', ["footer-numbering"], .always⟩, ⟨'v', ["starting-line-number"], .always⟩,
      ⟨'i', ["line-increment"], .always⟩, ⟨'p', ["no-renumber"], .never⟩,
      ⟨'l', ["join-blank-lines"], .always⟩, ⟨'s', ["number-separator"], .always⟩,
      ⟨'w', ["number-width"], .always⟩, ⟨'n', ["number-format"], .always⟩,
      ⟨'d', ["section-delimiter"], .always⟩] } fun name options => do
    let read := options.switches.foldl (fun (read : Except String (Wish × List String))
        (letter, text) =>
      match read with
      | .error message => .error message
      | .ok (wish, flaws) =>
        match wish.add letter text with
        | .ok wish => .ok (wish, flaws)
        | .error (.style message) => .ok (wish, flaws ++ [message])
        | .error (.fatal message) => .error message) (.ok ({}, []))
    match read with
    | .error message =>
      report name message
      return 1
    | .ok (wish, []) =>
      let (texts, isGood) ← readTexts name options.operands
      say (wish.text wish.start .body 1 (texts.flatMap fun (_, text) => Raw.lines text))
      return statusOf isGood
    | .ok (_, flaws) =>
      flaws.forM (report name)
      emit 2 (Raw.toBytes ("Try '" ++ name ++ " --help' for more information.\n"))
      return 1

/-- What is counted of a text: lines, words, characters, and the widest line. A word begins with a
    character that can be seen. -/
def counts (text : String) : List Nat :=
  let step (found : Nat × Nat × Bool × Nat × Nat) (c : Char) : Nat × Nat × Bool × Nat × Nat :=
    let (lines, words, isInWord, place, widest) := found
    let counted := if isInWord then words + 1 else words
    if c == '\n' || c == '\r' || c == '\x0c' then
      (if c == '\n' then lines + 1 else lines, counted, false, 0, max widest place)
    else if c == '\t' then (lines, counted, false, place + (8 - place % 8), widest)
    else if c == ' ' then (lines, counted, false, place + 1, widest)
    else if c == '\x0b' then (lines, counted, false, place, widest)
    else if 32 < c.toNat && c.toNat < 127 then (lines, words, true, place + 1, widest)
    else found
  let (lines, words, isInWord, place, widest) := text.toList.foldl step (0, 0, false, 0, 0)
  [lines, if isInWord then words + 1 else words, text.length, max widest place]

/-- Whether a stream comes from a file, and how large that is. -/
def Machine.fileSize? (machine : Machine) (stream : Nat) : Option Nat :=
  match machine.channel? stream with
  | some (.source document _ true) => some document.size
  | _ => none

/-- The size of the file that an operand leads to: nothing if there is none, and nothing within if
    it is no file. -/
def Machine.sizeAt (machine : Machine) (operand : String) : Option (Option Nat) :=
  if operand == "-" then some (machine.fileSize? 0)
  else
    match machine.tree.find machine.workDir (Raw.toText operand) with
    | .ok (_, .file document _) => some (some document.size)
    | .ok _ => some none
    | .error _ => none

/-- The width of the columns: enough for the sizes of all files together, and for seven digits if
    something is no file. -/
def countWidth (sizes : List (Option (Option Nat))) : Nat :=
  let total := (sizes.filterMap (·.bind id)).foldl (· + ·) 0
  let least := if sizes.contains (some none) then 7 else 1
  max least (toString total).length

def countParts : Program :=
  Usage.program {
    switches := [⟨'c', ["bytes"], .never⟩, ⟨'m', ["chars"], .never⟩, ⟨'l', ["lines"], .never⟩,
      ⟨'w', ["words"], .never⟩, ⟨'L', ["max-line-length"], .never⟩,
      ⟨'\x03', ["total"], .always⟩] } fun name options => do
    let isChosen :=
      if ['c', 'm', 'l', 'w', 'L'].any options.has then
        [options.has 'l', options.has 'w', options.has 'm', options.has 'c', options.has 'L']
      else [true, true, false, true, false]
    let columns (row : List Nat) : List Nat :=
      match row with
      | [lines, words, chars, widest] =>
        ([lines, words, chars, chars, widest].zip isChosen).filterMap fun (n, isChosen) =>
          if isChosen then some n else none
      | _ => []
    let operands := if options.operands.isEmpty then ["-"] else options.operands
    let machine ← get
    let totals := (options.value? '\x03').getD "auto"
    if !(["auto", "always", "only", "never"].contains totals) then
      report name ("invalid argument " ++ quotedWord totals ++ " for '--total'\n" ++
        "Valid arguments are:\n  - 'auto'\n  - 'always'\n  - 'only'\n  - 'never'\n" ++
        "Try '" ++ name ++ " --help' for more information.")
      return 1
    let width :=
      if totals == "only" || operands.length == 1 && (isChosen.filter id).length == 1 then 1
      else countWidth (operands.map machine.sizeAt)
    let rowText (path : String) (row : List Nat) : String :=
      " ".intercalate ((columns row).map (column width)) ++
        (if path.isEmpty then "" else " " ++ path) ++ "\n"
    let (total, isGood) ← operands.foldlM (fun (total, isGood) path => do
      let read ← if path == "-" then pure (.ok (← readStream 0)) else contents path
      let shown := if options.operands.isEmpty then "" else path
      let add (row : List Nat) : List Nat :=
        (total.zip row).mapIdx fun n (a, b) => if n == 3 then max a b else a + b
      match read with
      | .ok document =>
        let row := counts (Raw.ofBytes document)
        if totals != "only" then say (rowText shown row)
        return (add row, isGood)
      | .error fault =>
        report name (shownName path ++ ": " ++ faultText fault)
        if fault == .isADirectory && totals != "only" then say (rowText shown [0, 0, 0, 0])
        return (total, false)) (([0, 0, 0, 0] : List Nat), true)
    if totals == "only" then say (rowText "" total)
    else if totals == "always" || totals == "auto" && operands.length > 1 then
      say (rowText "total" total)
    return statusOf isGood

/-- The utilities of this module. -/
def numberingUtilities : List (String × Program) := [
  ("nl", numberLines),
  ("wc", countParts)]

end InfoFlow.Sandbox
