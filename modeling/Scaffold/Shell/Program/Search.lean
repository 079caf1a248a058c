import Scaffold.Shell.Program.Text
import Scaffold.Shell.Regex

/-!
# Searching lines

A program that finds lines in files.
-/

namespace Scaffold.Shell.Program

/-- The options of `grep`. -/
def grepKnown : Known where
  letters := "A:B:C:bcEe:Ff:GhHiIlLm:noPqrRsvwxyzZ"
  names := [("ignore-case", 'i'), ("invert-match", 'v'), ("count", 'c'), ("quiet", 'q'),
    ("files-with-matches", 'l'), ("files-without-match", 'L'), ("line-number", 'n'),
    ("recursive", 'r'), ("only-matching", 'o'), ("fixed-strings", 'F'), ("word-regexp", 'w'),
    ("line-regexp", 'x'), ("no-filename", 'h'), ("with-filename", 'H'), ("no-messages", 's'),
    ("max-count", 'm')]

/-- A character of a word. -/
def isWordPart (c : Char) : Bool :=
  c.isAlphanum || c == '_'

/-- The matches of an expression in a line, one behind the other. `wholeWords` demands that no word
goes on at their ends. The number bounds the steps. -/
def matches? (regex : Regex) (foldsCase wholeWords wholeLine : Bool) :
    Nat → Regex.Place → List Regex.Match
  | 0, _ => []
  | fuel + 1, place =>
    match regex.find? foldsCase (place.after.length + 1) place with
    | none => []
    | some found =>
      let next : Regex.Place :=
        if found.text.isEmpty then
          { before := (found.after.take 1).reverse ++ found.before.reverse
            after := found.after.drop 1 }
        else { before := found.text.reverse ++ found.before.reverse, after := found.after }
      let fits :=
        (!wholeWords ||
          !(found.before.getLast?.any isWordPart || found.after.head?.any isWordPart)) &&
          (!wholeLine || (found.before.isEmpty && found.after.isEmpty))
      let more := if found.text.isEmpty && found.after.isEmpty then []
        else matches? regex foldsCase wholeWords wholeLine fuel next
      if fits then found :: more else more

/-- What `grep` finds in one text. -/
structure Findings where
  out : Chars := []
  count : Nat := 0

/-- Searches one text. -/
def searchText (given : Given) (patterns : List Regex) (name : Chars) (text : Chars) : Findings :=
  let foldsCase := given.has 'i' || given.has 'y'
  let number (c : Char) := ((given.value? c).bind natural?).getD 0
  let after := max (number 'A') (number 'C')
  let before := max (number 'B') (number 'C')
  let lines := (bareLines text).toArray
  let found (line : Chars) : List Regex.Match :=
    patterns.flatMap fun regex =>
      matches? regex foldsCase (given.has 'w') (given.has 'x') (line.length + 2)
        { before := [], after := line }
  let hits := (List.range lines.size).filter fun i =>
    (!(found (lines.getD i [])).isEmpty) != given.has 'v'
  let hits := match (given.value? 'm').bind natural? with
    | some most => hits.take most
    | none => hits
  let mark (i : Nat) (sign : Char) : Chars :=
    (if name.isEmpty then [] else name ++ [sign]) ++
      if given.has 'n' then (i + 1).repr.toList ++ [sign] else []
  let isHit (i : Nat) : Bool := hits.contains i
  let near (i : Nat) : Bool :=
    hits.any fun hit => (i ≤ hit && hit ≤ i + before) || (hit ≤ i && i ≤ hit + after)
  let rows := (List.range lines.size).filter near
  let out :=
    if given.has 'o' then
      if given.has 'v' then []
      else
        hits.flatMap fun i =>
          ((found (lines.getD i [])).filter fun found => !found.text.isEmpty).flatMap fun found =>
            mark i ':' ++ found.text ++ ['\n']
    else
      let (out, _) := rows.foldl
        (fun (out, last) i =>
          let gap := (0 < after || 0 < before) && (last : Option Nat).any fun last => last + 1 < i
          let line := mark i (if isHit i then ':' else '-') ++ lines.getD i [] ++ ['\n']
          (out ++ (if gap then "--\n".toList else []) ++ line, some i))
        (([] : Chars), none)
      out
  { out, count := hits.length }

/-- The files below a directory, with their paths. A directory that cannot be read counts itself.
The number bounds the depth. -/
def filesBelow (disk : Disk) : Nat → Chars → Location → List Chars
  | 0, _, _ => []
  | depth + 1, path, location =>
    if !isReadable disk location then [path]
    else
      (namesIn disk location).flatMap fun name =>
        match disk.tree.get? (location ++ [textOf name]) with
        | some (.directory _) =>
          filesBelow disk depth (joined path name) (location ++ [textOf name])
        | some (.file _ _) => [joined path name]
        | _ => []

/-- Finds lines in files. -/
def grepWith (extended fixed : Bool) : Program := fun words job =>
  let usage := "Usage: grep [OPTION]... PATTERNS [FILE]...\nTry 'grep --help' for more information."
  match grepKnown.read words with
  | .error message => job.fail 2 ("grep: ".toList ++ message ++ '\n' :: usage.toList)
  | .ok given =>
    let listed := given.options.filterMap fun (c, value) => if c == 'e' then some value else none
    let (patterns, paths) :=
      if listed.isEmpty then (given.words.take 1, given.words.drop 1) else (listed, given.words)
    if patterns.isEmpty then job.fail 2 usage.toList
    else
      let patterns := patterns.flatMap fun pattern => Text.splitOn "\n" pattern
      let compiled := patterns.map fun pattern =>
        if given.has 'F' || fixed then some (Regex.ofText pattern)
        else Regex.parse? (given.has 'E' || given.has 'P' || extended) pattern
      if compiled.any Option.isNone then
        let isSet := patterns.any fun pattern => pattern.contains '['
        job.fail 2
          ("grep: " ++ if isSet then "Invalid regular expression" else "Unmatched ( or \\(").toList
      else
        let regexes := compiled.filterMap id
        let recursive := given.has 'r' || given.has 'R'
        let starts :=
          if !paths.isEmpty then paths else if recursive then [['.']] else [['-']]
        let expand (path : Chars) : List Chars :=
          match node job.disk true path with
          | .ok (location, .directory _) =>
            if recursive then
              let below := filesBelow job.disk (job.disk.tree.entries.length + 1) path location
              if paths.isEmpty then below.map fun path => path.drop 2 else below
            else [path]
          | _ => [path]
        let files := starts.flatMap expand
        let named := given.has 'H' || (!given.has 'h' && (1 < starts.length || recursive))
        let named := if given.has 'h' then false else named
        let quiet := given.has 'q'
        let step (task : Job × Bool × Bool) (path : Chars) : Job × Bool × Bool :=
          let (job, anyHit, failed) := task
          match read job path with
          | .error fault =>
            let job :=
              if given.has 's' || (quiet && anyHit) then job
              else
                job.fail job.status
                  ("grep: ".toList ++ path ++ ": ".toList ++ fault.wording)
            (job, anyHit, failed || !(quiet && anyHit))
          | .ok text =>
            let label := if path == ['-'] then "(standard input)".toList else path
            let findings := searchText given regexes (if named then label else []) text
            let hit := 0 < findings.count
            let job :=
              if quiet then job
              else if given.has 'l' then if hit then job.printLine label else job
              else if given.has 'L' then if hit then job else job.printLine label
              else if given.has 'c' then
                job.printLine
                  ((if named then label ++ [':'] else []) ++ findings.count.repr.toList)
              else job.print findings.out
            let job := job.drain [path]
            (job, anyHit || (if given.has 'L' then !hit else hit), failed)
        let (job, anyHit, failed) := files.foldl step (job, false, false)
        let status := if quiet && anyHit then 0 else if failed then 2 else if anyHit then 0 else 1
        { job with status }

end Scaffold.Shell.Program
