import Scaffold.Shell.Program.Text

/-!
# Changing characters

Programs that change characters of their input, or cut parts out of lines and paths.
-/

namespace Scaffold.Shell.Program

/-- A set of `tr`: its characters in order. Where one of them fills up the set it stands alone. The
number bounds the steps. -/
def trSet : Nat → Marked → Except Chars (List Char × Option Char)
  | 0, _ => .ok ([], none)
  | _ + 1, [] => .ok ([], none)
  | fuel + 1, text =>
    let more (found : List Char) (rest : Marked) : Except Chars (List Char × Option Char) :=
      (trSet fuel rest).map fun (chars, fill) => (found ++ chars, fill)
    let ofRanges (ranges : List (Char × Char)) : List Char :=
      (List.range 256).filterMap fun n =>
        let c := Char.ofNat n
        if ranges.any fun (first, last) => first ≤ c && c ≤ last then some c else none
    match text with
    | ('[', false) :: (':', false) :: rest =>
      match Pattern.class? ((':', false) :: rest) with
      | some (name, rest) => more (ofRanges (Pattern.classRanges name)) rest
      | none => more ['['] ((':', false) :: rest)
    | ('[', false) :: (c, _) :: ('*', false) :: rest =>
      let digits := rest.takeWhile fun (c, _) => c.isDigit
      match rest.drop digits.length with
      | (']', false) :: after =>
        match natural? (Pattern.plain digits) with
        | some (count + 1) => more (List.replicate (count + 1) c) after
        | _ => (trSet fuel after).map fun (chars, _) => (chars, some c)
      | _ => more ['['] (text.drop 1)
    | (first, _) :: ('-', false) :: (last, _) :: rest =>
      if last < first then
        .error ("range-endpoints of '".toList ++ [first, '-', last] ++
          "' are in reverse collating sequence order".toList)
      else more (ofRanges [(first, last)]) rest
    | (c, _) :: rest => more [c] rest
    | [] => .ok ([], none)

/-- Drops characters of a set that repeat the one before them. -/
def squeezed (set : List Char) (text : Chars) : Chars :=
  (text.foldl
    (fun (out : Chars) c => if out.head? == some c && set.contains c then out else c :: out)
    []).reverse

/-- Changes, drops or squeezes characters. -/
def tr : Program := withOptions "tr"
    { letters := "cCdst"
      names := [("complement", 'c'), ("delete", 'd'), ("squeeze-repeats", 's'),
        ("truncate-set1", 't')] }
  fun given job =>
    let deletes := given.has 'd'
    let squeezes := given.has 's'
    let most := if deletes && !squeezes then 1 else 2
    let least := if deletes == squeezes then 2 else 1
    let hint :=
      if deletes && squeezes then
        "\nTwo strings must be given when both deleting and squeezing repeats."
      else "\nTwo strings must be given when translating."
    match given.words with
    | [] => job.misused "tr" "missing operand".toList 1
    | first :: others =>
      if given.words.length < least then
        job.misused "tr" ("missing operand after ".toList ++ inCurls first ++ hint.toList) 1
      else if most < given.words.length then
        let hint :=
          if deletes && !squeezes && given.words.length = 2 then
            "\nOnly one string may be given when deleting without squeezing repeats."
          else ""
        job.misused "tr"
          ("extra operand ".toList ++ inCurls (given.words.getD most []) ++ hint.toList) 1
      else
        let set (text : Chars) := trSet (text.length + 1) (unescaped (text.length + 1) text)
        match set first, set (others.headD []) with
        | .error message, _ | _, .error message => job.complain "tr" message
        | .ok (first, _), .ok (second, fill) =>
          let complemented := given.has 'c' || given.has 'C'
          let inFirst (c : Char) : Bool := first.contains c != complemented
          let source : List Char :=
            if complemented then ((List.range 256).map Char.ofNat).filter fun c => !first.contains c
            else first
          if deletes then
            let left := job.input.filter fun c => !inFirst c
            { job.print (if squeezes then squeezed second left else left) with input := [] }
          else if others.isEmpty then
            { job.print (squeezed source job.input) with input := [] }
          else if second.isEmpty && fill.isNone then
            job.complain "tr" "when not truncating set1, string2 must be non-empty".toList
          else
            let last := fill.getD (second.getLast?.getD ' ')
            let pairs := List.zip source
              (second ++ List.replicate (source.length - second.length) last)
            let changed := job.input.map fun c => (pairs.reverse.lookup c).getD c
            let target := second ++ fill.toList
            { job.print (if squeezes then squeezed target changed else changed) with input := [] }

/-- The ranges that a list of `cut` writes. -/
def cutRanges (what : String) (text : Chars) : Except Chars (List (Nat × Option Nat)) :=
  let invalid := what.toList ++ inCurls text
  (Text.splitOn "," text).foldlM
    (fun ranges piece =>
      let first := piece.takeWhile (· != '-')
      let rest := piece.drop first.length
      let bound (text : Chars) (default : Option Nat) : Except Chars (Option Nat) :=
        if text.isEmpty then .ok default
        else
          match natural? text with
          | some value => .ok (some value)
          | none => .error invalid
      match rest with
      | [] => do
        match ← bound first none with
        | some 0 => .error (if what == "invalid field value " then "fields are numbered from 1"
            else "byte/character positions are numbered from 1").toList
        | some value => .ok (ranges ++ [(value, some value)])
        | none => .error invalid
      | _ :: last => do
        if first.isEmpty && last.isEmpty then .error "invalid range with no endpoint: -".toList
        else
          let low ← bound first (some 1)
          let high ← bound last none
          match low, high with
          | some low, some high =>
            if high < low then .error "invalid decreasing range".toList
            else .ok (ranges ++ [(low, some high)])
          | some low, none => .ok (ranges ++ [(low, none)])
          | none, _ => .error invalid)
    []

/-- The units of a list whose places lie in ranges. -/
def atPlaces {α : Type} (ranges : List (Nat × Option Nat)) (complemented : Bool)
    (units : List α) : List α :=
  (units.zipIdx 1).filterMap fun (unit, place) =>
    let inside := ranges.any fun (low, high) => low ≤ place && high.all (place ≤ ·)
    if inside != complemented then some unit else none

/-- Cuts parts out of lines. -/
def cut : Program := withOptions "cut"
    { letters := "b:c:d:f:nsCO:z"
      names := [("bytes", 'b'), ("characters", 'c'), ("delimiter", 'd'), ("fields", 'f'),
        ("only-delimited", 's'), ("complement", 'C'), ("output-delimiter", 'O')] }
  fun given job =>
    let lists := given.options.filter fun (c, _) => c == 'b' || c == 'c' || c == 'f'
    match lists with
    | [] => job.misused "cut" "you must specify a list of bytes, characters, or fields".toList 1
    | _ :: _ :: _ => job.misused "cut" "only one list may be specified".toList 1
    | [(kind, list)] =>
      let what := if kind == 'f' then "invalid field value " else "invalid byte/character position "
      let delimiter := (given.value? 'd').getD ['\t']
      if 1 < delimiter.length then
        job.misused "cut" "the delimiter must be a single character".toList 1
      else if kind != 'f' && given.has 'd' then
        job.misused "cut"
          "an input delimiter may be specified only when operating on fields".toList 1
      else
        match cutRanges what list with
        | .error message => job.misused "cut" message 1
        | .ok ranges =>
          let sign := String.ofList delimiter
          let line (line : Chars) : Chars :=
            if kind == 'f' then
              let fields := Text.splitOn sign line
              if fields.length = 1 then if given.has 's' then [] else line ++ ['\n']
              else
                ((given.value? 'O').getD delimiter).intercalate
                  (atPlaces ranges (given.has 'C') fields) ++ ['\n']
            else atPlaces ranges (given.has 'C') line ++ ['\n']
          withFiles "cut" given.words plainComplaint
            (fun _ text job => job.print ((bareLines text).flatMap line)) job

/-- Prints the last parts of paths. -/
def basename : Program := withOptions "basename"
    { letters := "as:z", names := [("multiple", 'a'), ("suffix", 's')] }
  fun given job =>
    let cut (suffix path : Chars) : Chars :=
      let name := baseName path
      if suffix.isSuffixOf name && name != suffix then name.take (name.length - suffix.length)
      else name
    let many := given.has 'a' || given.has 's'
    match given.words with
    | [] => job.misused "basename" "missing operand".toList 1
    | path :: others =>
      if many then
        forEach (fun word job => job.printLine (cut ((given.value? 's').getD []) word))
          given.words job
      else
        match others with
        | _ :: extra :: _ => job.misused "basename" ("extra operand ".toList ++ inCurls extra) 1
        | _ => job.printLine (cut (others.headD []) path)

/-- Prints the paths before the last parts. -/
def dirname : Program := withOptions "dirname" { letters := "z" } fun given job =>
  if given.words.isEmpty then job.misused "dirname" "missing operand".toList 1
  else forEach (fun word job => job.printLine (dirName word)) given.words job

end Scaffold.Shell.Program
