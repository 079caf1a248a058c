import Scaffold.Shell.Program.Text
import Scaffold.Shell.Regex

/-!
# Editing lines by a script

A script of an editor is run on each line. Its commands change the line, print it or drop it, and
may be bound to places.
-/

namespace Scaffold.Shell.Program

/-- A place in the lines that are edited. -/
inductive Address where
  | line (number : Nat)
  | last
  | fitting (regex : Regex) (foldsCase : Bool)
  /-- Every so many lines from a line on. -/
  | stepping (first step : Nat)
  /-- So many lines behind the start of a range. -/
  | further (count : Nat)

/-- A piece of the text that is put in place of a match. -/
inductive Replacement where
  | text (text : Chars)
  | group (number : Nat)
  /-- Letters from here on are made large or small, or stay as they are. -/
  | letters (case : Char)

/-- What a command of the editor does. -/
inductive EditAction where
  | substitute (regex : Regex) (replacement : List Replacement) (foldsCase all prints : Bool)
      (first : Nat)
  | exchange (pairs : List (Char × Char))
  | delete
  | deleteLine
  | print
  | printLine
  | number
  | quit (prints : Bool) (status : Nat)
  | append (text : Chars)
  | insert (text : Chars)
  | replace (text : Chars)
  | next
  | join
  | hold (adds : Bool)
  | recall (adds : Bool)
  | swap
  | branch (onlyIfChanged : Bool) (label : Chars)
  | label (name : Chars)
  /-- The commands up to a closing brace. -/
  | block
  | close

/-- A command of the editor with the places that it is bound to. -/
structure Edit where
  first : Option Address := none
  last : Option Address := none
  negated : Bool := false
  action : EditAction

/-- A fault of a script, with the place in it. -/
abbrev EditReading (α : Type) := Except (Nat × String) (α × Chars)

/-- The place where a script is read. -/
def placeOf (length : Nat) (rest : Chars) : Nat :=
  length - rest.length

/-- A text up to a sign, which a backslash protects; inside a set of an expression it needs none. -/
def delimited (sign : Char) (isRegex : Bool) : Bool → Chars → Option (Chars × Chars)
  | _, [] => none
  | _, '\\' :: c :: rest =>
    (delimited sign isRegex false rest).map fun (text, after) =>
      (if c == sign then c :: text
       else if c == 'n' && isRegex then '\n' :: text
       else '\\' :: c :: text, after)
  | _, c :: rest =>
    if c == sign then some ([], rest)
    else (delimited sign isRegex false rest).map fun (text, after) => (c :: text, after)

/-- The pieces of the text that is put in place of a match. -/
def replacement : Chars → List Replacement
  | [] => []
  | '&' :: rest => .group 0 :: replacement rest
  | '\\' :: c :: rest =>
    if c.isDigit then .group (c.toNat - '0'.toNat) :: replacement rest
    else if c == 'n' then .text ['\n'] :: replacement rest
    else if c == 't' then .text ['\t'] :: replacement rest
    else if "UuLlE".toList.contains c then .letters c :: replacement rest
    else .text [c] :: replacement rest
  | c :: rest => .text [c] :: replacement rest

/-- An address at the start of a script. -/
def address? (extended : Bool) (length : Nat) (text : Chars) : EditReading (Option Address) :=
  let regex (sign : Char) (body : Chars) : EditReading (Option Address) :=
    match delimited sign true false body with
    | none => .error (length, "unterminated address regex")
    | some (pattern, rest) =>
      match Regex.parse? extended pattern with
      | none => .error (placeOf length rest, "Unmatched ( or \\(")
      | some regex =>
        match rest with
        | 'I' :: rest => .ok (some (.fitting regex true), rest)
        | _ => .ok (some (.fitting regex false), rest)
  match text with
  | '$' :: rest => .ok (some .last, rest)
  | '/' :: rest => regex '/' rest
  | '\\' :: sign :: rest => regex sign rest
  | _ =>
    let digits := text.takeWhile Char.isDigit
    match natural? digits, text.drop digits.length with
    | some first, '~' :: rest =>
      let step := rest.takeWhile Char.isDigit
      .ok (some (.stepping first ((natural? step).getD 0)), rest.drop step.length)
    | some number, rest => .ok (some (.line number), rest)
    | none, _ => .ok (none, text)

/-- The text of a command that adds lines, and what follows it. -/
def addedText (rest : Chars) : Chars × Chars :=
  let rest := rest.dropWhile fun c => c == ' ' || c == '\t'
  let rest :=
    match rest with
    | '\\' :: '\n' :: rest => rest
    | '\\' :: rest => rest
    | _ => rest
  let line := rest.takeWhile (· != '\n')
  (line.filter (· != '\\'), rest.drop (line.length + 1))

/-- The flags of a substitution. -/
structure Flags where
  all : Bool := false
  prints : Bool := false
  foldsCase : Bool := false
  first : Nat := 1

/-- Reads the flags of a substitution. The number bounds the steps. -/
def flags (length : Nat) : Nat → Flags → Chars → EditReading Flags
  | 0, found, rest => .ok (found, rest)
  | fuel + 1, found, rest =>
    match rest with
    | 'g' :: rest => flags length fuel { found with all := true } rest
    | 'p' :: rest => flags length fuel { found with prints := true } rest
    | 'i' :: rest | 'I' :: rest => flags length fuel { found with foldsCase := true } rest
    | c :: _ =>
      if c.isDigit then
        let digits := rest.takeWhile Char.isDigit
        flags length fuel { found with first := (natural? digits).getD 1 } (rest.drop digits.length)
      else if ";\n \x7d#".toList.contains c then .ok (found, rest)
      else .error (placeOf length rest + 1, "unknown option to \x60s'")
    | [] => .ok (found, [])

/-- A command behind its addresses, and whether it ends by itself. -/
def editAction (extended : Bool) (length : Nat) (text : Chars) : EditReading (EditAction × Bool) :=
  let simple (action : EditAction) (rest : Chars) : EditReading (EditAction × Bool) :=
    .ok ((action, false), rest)
  let word (rest : Chars) : Chars × Chars :=
    let rest := rest.dropWhile (· == ' ')
    let name := rest.takeWhile fun c => c != ';' && c != '\n' && c != '\x7d'
    (name, rest.drop name.length)
  match text with
  | [] => .error (length, "missing command")
  | c :: rest =>
    match c with
    | 's' =>
      match rest with
      | [] => .error (length, "unterminated \x60s' command")
      | sign :: body =>
        match delimited sign true false body with
        | none => .error (length, "unterminated \x60s' command")
        | some (pattern, after) =>
          match delimited sign false false after with
          | none => .error (length, "unterminated \x60s' command")
          | some (text, after) =>
            match flags length (after.length + 1) {} after with
            | .error fault => .error fault
            | .ok (found, after) =>
              match Regex.parse? extended pattern with
              | none => .error (placeOf length after, "Unmatched ( or \\(")
              | some regex =>
                simple
                  (.substitute regex (replacement text) found.foldsCase found.all found.prints
                    found.first)
                  after
    | 'y' =>
      match rest with
      | [] => .error (length, "unterminated \x60y' command")
      | sign :: body =>
        match delimited sign true false body with
        | none => .error (length, "unterminated \x60y' command")
        | some (source, after) =>
          match delimited sign true false after with
          | none => .error (length, "unterminated \x60y' command")
          | some (target, after) =>
            if source.length != target.length then
              .error (placeOf length after, "strings for \x60y' command are different lengths")
            else simple (.exchange (List.zip source target)) after
    | 'd' => simple .delete rest
    | 'D' => simple .deleteLine rest
    | 'p' => simple .print rest
    | 'P' => simple .printLine rest
    | '=' => simple .number rest
    | 'q' | 'Q' =>
      let digits := (rest.dropWhile (· == ' ')).takeWhile Char.isDigit
      let after := if digits.isEmpty then rest else (rest.dropWhile (· == ' ')).drop digits.length
      simple (.quit (c == 'q') ((natural? digits).getD 0)) after
    | 'a' => let (text, after) := addedText rest; .ok ((.append text, true), after)
    | 'i' => let (text, after) := addedText rest; .ok ((.insert text, true), after)
    | 'c' => let (text, after) := addedText rest; .ok ((.replace text, true), after)
    | 'n' => simple .next rest
    | 'N' => simple .join rest
    | 'h' => simple (.hold false) rest
    | 'H' => simple (.hold true) rest
    | 'g' => simple (.recall false) rest
    | 'G' => simple (.recall true) rest
    | 'x' => simple .swap rest
    | 'b' => let (name, after) := word rest; simple (.branch false name) after
    | 't' => let (name, after) := word rest; simple (.branch true name) after
    | ':' => let (name, after) := word rest; simple (.label name) after
    | '\x7b' => .ok ((.block, true), rest)
    | '\x7d' => simple .close rest
    | c => .error (placeOf length rest, "unknown command: \x60" ++ String.singleton c ++ "'")

/-- The commands of a script. The number bounds the steps. -/
def editScript (extended : Bool) (length : Nat) : Nat → Nat → Chars →
    Except (Nat × String) (List Edit)
  | 0, _, _ => .ok []
  | fuel + 1, depth, text => do
    let text := text.dropWhile fun c => c == ' ' || c == '\t' || c == '\n' || c == ';'
    match text with
    | [] => if depth = 0 then return [] else throw (0, "unmatched \x60\x7b'")
    | '#' :: rest => editScript extended length fuel depth (rest.dropWhile (· != '\n'))
    | _ =>
      let (first, rest) ← address? extended length text
      let (upTo, rest) ←
        match first, rest with
        | some _, ',' :: '+' :: rest =>
          let digits := rest.takeWhile Char.isDigit
          .ok (some (Address.further ((natural? digits).getD 0)), rest.drop digits.length)
        | some _, ',' :: rest =>
          match ← address? extended length (rest.dropWhile (· == ' ')) with
          | (some upTo, rest) => .ok (some upTo, rest)
          | (none, rest) => .error (placeOf length rest, "unexpected \x60,'")
        | _, _ => .ok (none, rest)
      let rest := rest.dropWhile (· == ' ')
      let (negated, rest) :=
        match rest with
        | '!' :: rest => (true, rest.dropWhile (· == ' '))
        | _ => (false, rest)
      let ((action, endsItself), after) ← editAction extended length rest
      let depth ←
        match action with
        | .block => .ok (depth + 1)
        | .close =>
          if depth = 0 then .error (placeOf length after, "unexpected \x60\x7d'")
          else .ok (depth - 1)
        | _ => .ok depth
      let blank := after.dropWhile (· == ' ')
      let clean :=
        match blank with
        | [] => true
        | c :: _ => ";\n\x7d#".toList.contains c
      if !endsItself && !clean then
        throw (placeOf length blank + 1, "extra characters after command")
      let more ← editScript extended length fuel depth after
      return { first, last := upTo, negated, action } :: more

/-- The lines that an editor goes through. -/
structure Editor where
  /-- The lines to come, with their ends. -/
  ahead : List Chars
  number : Nat := 0
  space : Chars := []
  /-- The line that is edited has an end. -/
  ended : Bool := true
  held : Chars := []
  out : Chars := []
  appended : Chars := []
  changed : Bool := false
  /-- For commands of a range, the line on which it started. -/
  started : List (Nat × Nat) := []
  stopped : Option Nat := none

namespace Editor

/-- Writes a line. -/
def emit (editor : Editor) (text : Chars) : Editor :=
  { editor with out := editor.out ++ text ++ if editor.ended then ['\n'] else [] }

/-- Writes what was to be added behind the line. -/
def flush (editor : Editor) : Editor :=
  { editor with out := editor.out ++ editor.appended, appended := [] }

/-- Takes the next line. -/
def advance? (editor : Editor) : Option Editor :=
  match editor.ahead with
  | [] => none
  | line :: ahead =>
    some { editor with
      ahead, number := editor.number + 1, space := bare line
      ended := line.getLast? == some '\n' }

/-- An address fits the line. -/
def fits (editor : Editor) : Address → Bool
  | .line number => editor.number == number
  | .last => editor.ahead.isEmpty
  | .fitting regex foldsCase => (regex.search? foldsCase editor.space).isSome
  | .stepping first step =>
    if step = 0 then editor.number == first
    else first ≤ editor.number && (editor.number - first) % step == 0
  | .further _ => false

/-- A command with a number is to be run on the line. -/
def selects (editor : Editor) (place : Nat) (edit : Edit) : Bool × Editor :=
  let (value, editor) : Bool × Editor :=
    match edit.first, edit.last with
    | none, _ => (true, editor)
    | some first, none => (editor.fits first, editor)
    | some first, some upTo =>
      let stop : Editor :=
        { editor with started := editor.started.filter fun (known, _) => known != place }
      let ends (begun : Nat) : Bool :=
        match upTo with
        | .line number => number ≤ editor.number
        | .further count => begun + count ≤ editor.number
        | other => editor.fits other
      match editor.started.lookup place with
      | some begun =>
        let ended : Bool :=
          match upTo with
          | .line number => number < editor.number
          | _ => false
        if ended then (editor.fits first, stop) else (true, if ends begun then stop else editor)
      | none =>
        let startsAtZero :=
          match first with
          | .line 0 => editor.number == 1
          | _ => false
        if startsAtZero then
          (true, if ends 0 then editor
            else { editor with started := (place, editor.number) :: editor.started })
        else if editor.fits first then
          let atOnce : Bool :=
            match upTo with
            | .line number => number ≤ editor.number
            | .further count => count == 0
            | .last => editor.ahead.isEmpty
            | _ => false
          (true, if atOnce then editor
            else { editor with started := (place, editor.number) :: editor.started })
        else (false, editor)
  (value != edit.negated, editor)

end Editor

/-- A text with letters changed as asked: once for the first one, or for all. -/
def cased (once always : Option Char) (text : Chars) : Chars :=
  let change (case : Option Char) (c : Char) : Char :=
    match case with
    | some 'U' | some 'u' => c.toUpper
    | some 'L' | some 'l' => c.toLower
    | _ => c
  match text with
  | [] => []
  | c :: rest =>
    (if once.isSome then change once c else change always c) :: rest.map (change always)

/-- The text that is put in place of a match. -/
def filledIn (pieces : List Replacement) (found : Regex.Match) : Chars :=
  (pieces.foldl
    (fun ((out, once, always) : Chars × Option Char × Option Char) piece =>
      let add (text : Chars) : Chars × Option Char × Option Char :=
        (out ++ cased once always text, if text.isEmpty then once else none, always)
      match piece with
      | .text text => add text
      | .group 0 => add found.text
      | .group number => add ((found.kept.lookup number).getD [])
      | .letters c =>
        if c == 'u' || c == 'l' then (out, some c, always)
        else if c == 'E' then (out, none, none)
        else (out, once, some c))
    ([], none, none)).1

/-- Puts a text in place of matches from the place on. The number bounds the steps. -/
def substituted (regex : Regex) (pieces : List Replacement) (foldsCase all : Bool) (first : Nat) :
    Nat → Nat → Bool → Regex.Place → Option Chars
  | 0, _, _, _ => none
  | fuel + 1, count, afterMatch, place =>
    match regex.find? foldsCase (place.after.length + 1) place with
    | none => none
    | some found =>
      let skipped := found.before.drop place.before.length
      let isVoid := found.text.isEmpty && afterMatch && skipped.isEmpty
      let count := if isVoid then count else count + 1
      let replaces := !isVoid && first ≤ count
      let middle :=
        if isVoid then [] else if replaces then filledIn pieces found else found.text
      let stepped : Chars × Regex.Place :=
        if found.text.isEmpty then
          (found.after.take 1,
            { before := (found.after.take 1).reverse ++ found.before.reverse
              after := found.after.drop 1 })
        else ([], { before := found.text.reverse ++ found.before.reverse, after := found.after })
      let done := replaces && !all
      let atEnd := found.text.isEmpty && found.after.isEmpty
      let rest? :=
        if done || atEnd then none
        else substituted regex pieces foldsCase all first fuel count (!found.text.isEmpty) stepped.2
      if done then some (skipped ++ middle ++ found.after)
      else
        match rest? with
        | some rest => some (skipped ++ middle ++ stepped.1 ++ rest)
        | none => if replaces then some (skipped ++ middle ++ found.after) else none

/-- The commands behind the closing brace of the block that they stand in. -/
def afterBlock : Nat → List (Edit × Nat) → List (Edit × Nat)
  | _, [] => []
  | depth, (edit, _) :: rest =>
    match edit.action with
    | .block => afterBlock (depth + 1) rest
    | .close => if depth = 0 then rest else afterBlock (depth - 1) rest
    | _ => afterBlock depth rest

/-- Runs commands on a line. `all` are those of the whole script. The number bounds the steps. -/
def runEdits (quiet : Bool) (all : List (Edit × Nat)) : Nat → List (Edit × Nat) → Editor → Editor
  | 0, _, editor => editor
  | fuel + 1, edits, editor =>
    match edits with
    | [] => (if quiet then editor else editor.emit editor.space).flush
    | (edit, place) :: rest =>
      let (selected, editor) := editor.selects place edit
      let go (editor : Editor) : Editor := runEdits quiet all fuel rest editor
      match edit.action with
      | .block =>
        if selected then go editor else runEdits quiet all fuel (afterBlock 0 rest) editor
      | action =>
        if !selected then go editor
        else
          match action with
          | .substitute regex pieces foldsCase every prints first =>
            match substituted regex pieces foldsCase every first (editor.space.length + 2) 0 false
                { before := [], after := editor.space } with
            | none => go editor
            | some space =>
              let editor := { editor with space, changed := true }
              go (if prints then editor.emit space else editor)
          | .exchange pairs =>
            go { editor with space := editor.space.map fun c => (pairs.lookup c).getD c }
          | .delete => editor.flush
          | .deleteLine =>
            let left := editor.space.dropWhile (· != '\n')
            if left.isEmpty then editor.flush
            else runEdits quiet all fuel all { editor.flush with space := left.drop 1 }
          | .print => go (editor.emit editor.space)
          | .printLine => go (editor.emit (editor.space.takeWhile (· != '\n')))
          | .number => go { editor with out := editor.out ++ editor.number.repr.toList ++ ['\n'] }
          | .quit prints status =>
            let editor := (if quiet || !prints then editor else editor.emit editor.space).flush
            { editor with stopped := some status, ahead := [] }
          | .append text => go { editor with appended := editor.appended ++ text ++ ['\n'] }
          | .insert text => go { editor with out := editor.out ++ text ++ ['\n'] }
          | .replace text =>
            let inRange := (editor.started.lookup place).isSome && !edit.negated
            (if inRange then editor else { editor with out := editor.out ++ text ++ ['\n'] }).flush
          | .next =>
            let shown := (if quiet then editor else editor.emit editor.space).flush
            match shown.advance? with
            | some editor => go editor
            | none => if quiet then editor.flush else shown
          | .join =>
            match editor.advance? with
            | some next => go { next with space := editor.space ++ '\n' :: next.space }
            | none => (if quiet then editor else editor.emit editor.space).flush
          | .hold adds =>
            go { editor with
              held := if adds then editor.held ++ '\n' :: editor.space else editor.space }
          | .recall adds =>
            go { editor with
              space := if adds then editor.space ++ '\n' :: editor.held else editor.held }
          | .swap => go { editor with space := editor.held, held := editor.space }
          | .branch onlyIfChanged name =>
            if onlyIfChanged && !editor.changed then go editor
            else
              let editor := { editor with changed := !onlyIfChanged && editor.changed }
              if name.isEmpty then runEdits quiet all fuel [] editor
              else
                let isLabel (entry : Edit × Nat) : Bool :=
                  match entry.1.action with
                  | .label known => known == name
                  | _ => false
                runEdits quiet all fuel (all.dropWhile fun entry => !isLabel entry) editor
          | .label _ | .block | .close => go editor

/-- Edits all lines. The number bounds the steps. -/
def editAll (quiet : Bool) (edits : List (Edit × Nat)) : Nat → Editor → Editor
  | 0, editor => editor
  | fuel + 1, editor =>
    match editor.advance? with
    | none => editor
    | some editor =>
      editAll quiet edits fuel (runEdits quiet edits 4000 edits { editor with changed := false })

/-- Edits a text, and gives what is written and the status. -/
def edited (quiet : Bool) (edits : List Edit) (text : Chars) : Chars × Nat :=
  let lines := linesOf text
  let editor := editAll quiet edits.zipIdx (lines.length + 1) { ahead := lines }
  (editor.out, editor.stopped.getD 0)

/-- Edits files by a script. -/
def sed : Program := withOptions "sed"
    { letters := "nEre:isuz"
      names := [("quiet", 'n'), ("silent", 'n'), ("expression", 'e'), ("regexp-extended", 'E'),
        ("in-place", 'i')] }
  fun given job =>
    let listed := given.options.filterMap fun (c, value) => if c == 'e' then some value else none
    let (scripts, paths) :=
      if listed.isEmpty then (given.words.take 1, given.words.drop 1) else (listed, given.words)
    let script := ['\n'].intercalate scripts
    let extended := given.has 'E' || given.has 'r'
    match editScript extended script.length (script.length + 1) 0 script with
    | .error (place, message) =>
      job.fail 1
        ("sed: -e expression #1, char " ++ toString place ++ ": " ++ message).toList
    | .ok edits =>
      let paths := if paths.isEmpty then [['-']] else paths
      let complain (path : Chars) (fault : PathFault) (job : Job) : Job :=
        let what :=
          if fault == .directory then
            if given.has 'i' then "couldn't edit ".toList ++ path ++ ": not a regular file".toList
            else "read error on ".toList ++ path ++ ": Is a directory".toList
          else "can't read ".toList ++ path ++ ": ".toList ++ fault.wording
        job.fail (if fault == .directory then 4 else 2) ("sed: ".toList ++ what)
      if given.has 'i' then
        forEach
          (fun path job =>
            match node job.disk true path with
            | .ok (location, .file content mode) =>
              if !job.disk.tree.allows .read location then complain path .denied job
              else
                let (out, _) := edited (given.has 'n') edits (contentBytes content)
                { job with disk := put job.disk location (.file (toBytes out) mode) }
            | .ok _ => complain path .directory job
            | .error fault => complain path fault job)
          paths job
      else
        let (text, job) := paths.foldl
          (fun (text, job) path =>
            match read job path with
            | .ok more =>
              let joint := if text.isEmpty || text.getLast? == some '\n' then [] else ['\n']
              (text ++ (if more.isEmpty then [] else joint) ++ more, job.drain [path])
            | .error fault => (text, complain path fault job))
          (([] : Chars), job)
        let (out, status) := edited (given.has 'n') edits text
        let job := job.print out
        if status != 0 then { job with status } else job

end Scaffold.Shell.Program
