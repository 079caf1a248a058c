import Scaffold.Shell.Program.Text

/-!
# Sorting lines

Programs that put lines into order and drop those that are repeated.
-/

namespace Scaffold.Shell.Program

/-- A number at the start of a text as a fraction with nine places. -/
def leadingNumber (text : Chars) : Int :=
  let text := text.dropWhile fun c => c == ' ' || c == '\t'
  let (negative, text) :=
    match text with
    | '-' :: rest => (true, rest)
    | _ => (false, text)
  let whole := text.takeWhile Char.isDigit
  let places :=
    match text.drop whole.length with
    | '.' :: rest => (rest.takeWhile Char.isDigit).take 9
    | _ => []
  let digits := whole ++ places ++ List.replicate (9 - places.length) '0'
  let value : Int := Int.ofNat ((natural? digits).getD 0)
  if negative then -value else value

/-- The part of a line that it is sorted by. A field starts right behind the one before it. -/
def sortKey (separator : Option Char) (key : Chars) (line : Chars) : Chars :=
  let fields : List Chars :=
    match separator with
    | some c => (Text.splitOn (String.singleton c) line)
    | none =>
      line.foldr
        (fun c fields =>
          match fields with
          | (d :: field) :: rest =>
            if (c != ' ' && c != '\t') && (d == ' ' || d == '\t') then [c] :: (d :: field) :: rest
            else (c :: d :: field) :: rest
          | _ => [[c]])
        []
  let number (text : Chars) := (natural? (text.takeWhile Char.isDigit)).getD 1
  let first := number key
  let chosen :=
    match key.dropWhile (· != ',') with
    | _ :: last => (fields.take (number last)).drop (first - 1)
    | [] => fields.drop (first - 1)
  match separator with
  | some c => [c].intercalate chosen
  | none => chosen.flatten

/-- Sorts lines. -/
def sort : Program := withOptions "sort"
    { letters := "bcCdfghik:mMno:rRst:uVz"
      names := [("unique", 'u'), ("reverse", 'r'), ("numeric-sort", 'n'), ("key", 'k'),
        ("field-separator", 't'), ("output", 'o'), ("ignore-case", 'f'), ("check", 'c'),
        ("stable", 's')] }
  (fun given job =>
    let words := if given.words.isEmpty then [['-']] else given.words
    let fault? := words.findSome? fun word =>
      match read job word with
      | .ok _ => none
      | .error fault => some (word, fault)
    match fault? with
    | some (word, fault) =>
      let what := if fault == .directory then "read failed: " else "cannot read: "
      job.fail 2 ("sort: ".toList ++ what.toList ++ plainComplaint word fault)
    | none =>
      let text := words.flatMap fun word =>
        match read job word with
        | .ok text => if text.isEmpty || text.getLast? == some '\n' then text else text ++ ['\n']
        | .error _ => []
      let lines := bareLines text
      let keys := given.options.filterMap fun (c, value) => if c == 'k' then some value else none
      let separator := (given.value? 't').bind List.head?
      let letterOf (key : Chars) (c : Char) : Bool :=
        let own := key.filter Char.isAlpha
        if own.isEmpty then given.has c else own.contains c
      let compare (numeric foldsCase blanks : Bool) (a b : Chars) : Ordering :=
        if numeric then compareOfLessAndEq (leadingNumber a) (leadingNumber b)
        else
          let strip (text : Chars) :=
            let text := if blanks then text.dropWhile fun c => c == ' ' || c == '\t' else text
            if foldsCase then text.map Char.toUpper else text
          let a := strip a
          let b := strip b
          if a == b then .eq else if Pattern.precedes a b then .lt else .gt
      let byKeys (a b : Chars) : Ordering :=
        if keys.isEmpty then compare (given.has 'n') (given.has 'f') (given.has 'b') a b
        else
          keys.foldl
            (fun outcome key =>
              if outcome != .eq then outcome
              else
                let order := compare (letterOf key 'n') (letterOf key 'f') (letterOf key 'b')
                  (sortKey separator key a) (sortKey separator key b)
                if letterOf key 'r' && key.any Char.isAlpha then order.swap else order)
            .eq
      let keysReversed := keys.any fun key => key.any Char.isAlpha
      let turn (order : Ordering) : Ordering :=
        if given.has 'r' && !keysReversed then order.swap else order
      let whole (a b : Chars) : Ordering :=
        match turn (byKeys a b) with
        | .eq =>
          if given.has 's' || given.has 'u' then .eq
          else
            let order := compare false false false a b
            if given.has 'r' then order.swap else order
        | order => order
      if given.has 'c' || given.has 'C' then
        let pairs := List.zip lines (lines.drop 1)
        let bad (pair : Chars × Chars) : Bool :=
          match whole pair.1 pair.2 with
          | .gt => true
          | .eq => given.has 'u'
          | .lt => false
        match pairs.findIdx? bad with
        | none => job
        | some place =>
          if given.has 'C' then { job with status := 1 }
          else
            job.complain "sort"
              (words.headD [] ++ ':' :: (place + 2).repr.toList ++ ": disorder: ".toList ++
                (lines.getD (place + 1) []))
      else
        let sorted := lines.mergeSort fun a b => whole a b != .gt
        let kept :=
          if given.has 'u' then
            (sorted.foldl
              (fun (kept : List Chars) line =>
                if kept.head?.any fun last => byKeys last line == .eq then kept else line :: kept)
              []).reverse
          else sorted
        let out := kept.flatMap (· ++ ['\n'])
        let job := job.drain words
        match given.value? 'o' with
        | none => job.print out
        | some path =>
          match write job path out with
          | .ok job => job
          | .error fault =>
            job.fail 2 ("sort: open failed: ".toList ++ plainComplaint path fault)) 2

/-- Runs of equal lines, with how many there are of each. -/
def runs (same : Chars → Chars → Bool) (lines : List Chars) : List (Chars × Nat) :=
  (lines.foldl
    (fun (groups : List (Chars × Nat)) line =>
      match groups with
      | (first, count) :: rest =>
        if same first line then (first, count + 1) :: rest else (line, 1) :: groups
      | [] => [(line, 1)])
    []).reverse

/-- Drops lines that repeat the one before them. -/
def uniq : Program := withOptions "uniq"
    { letters := "cdDf:is:uw:z"
      names := [("count", 'c'), ("repeated", 'd'), ("unique", 'u'), ("ignore-case", 'i')] }
  fun given job =>
    let word := given.words.headD ['-']
    match read job word with
    | .error .directory =>
      job.complain "uniq" ("error reading ".toList ++ inQuotes word ++ ": Is a directory".toList)
    | .error fault => job.complain "uniq" (plainComplaint word fault)
    | .ok text =>
      let number (c : Char) := ((given.value? c).bind natural?).getD 0
      let skipField (line : Chars) : Chars :=
        (line.dropWhile fun c => c == ' ' || c == '\t').dropWhile fun c => c != ' ' && c != '\t'
      let key (line : Chars) : Chars :=
        let line := (List.range (number 'f')).foldl (fun line _ => skipField line) line
        let line := line.drop (number 's')
        let line := if given.has 'w' then line.take (number 'w') else line
        if given.has 'i' then line.map Char.toLower else line
      let groups := runs (fun a b => key a == key b) (bareLines text)
      let kept := groups.filter fun (_, count) =>
        if given.has 'd' || given.has 'D' then 1 < count else if given.has 'u' then count = 1
        else true
      (job.drain [word]).print (kept.flatMap fun (line, count) =>
        if given.has 'c' then padded 7 count ++ ' ' :: line ++ ['\n']
        else if given.has 'D' then (List.replicate count (line ++ ['\n'])).flatten
        else line ++ ['\n'])

end Scaffold.Shell.Program
