import Scaffold.Shell.Condition
import Scaffold.Shell.Printing
import Scaffold.Shell.Program.Comparing
import Scaffold.Shell.Program.Copying
import Scaffold.Shell.Program.Counting
import Scaffold.Shell.Program.Cutting
import Scaffold.Shell.Program.Edit
import Scaffold.Shell.Program.Find
import Scaffold.Shell.Program.Launch
import Scaffold.Shell.Program.Listing
import Scaffold.Shell.Program.Making
import Scaffold.Shell.Program.Search
import Scaffold.Shell.Program.Sorting

/-!
# The programs that are there

All programs by their names, the shell itself and those that run others apart.
-/

namespace Scaffold.Shell.Program

/-- Prints words by a format. -/
def printf : Program := fun words job =>
  match words with
  | [] => job.misused "printf" "missing operand".toList 1
  | format :: words =>
    let printed := Printing.format (words.length + 1) format { words }
    let job := printed.complaints.foldl (fun job text => job.complain "printf" text) job
    let job := printed.fault.elim job fun text => job.complain "printf" text
    job.print printed.out

/-- Tells by the status whether a condition holds. -/
def test (closed : Bool) : Program := fun words job =>
  if closed && words.getLast? != some [']'] then job.fail 2 "[: missing ']'".toList
  else
    match Condition.eval job.disk (if closed then words.dropLast else words) with
    | .ok value => { job with status := if value then 0 else 1 }
    | .error message => job.fail 2 ("test: ".toList ++ message)

/-- A program that takes no words and prints a line. -/
def fixedLine (name : String) (line : String) : Program := fun words job =>
  match words with
  | [] => job.printLine line.toList
  | word :: _ => job.misused name ("extra operand ".toList ++ inCurls word) 1

/-- Waits, and complains about what is no time. -/
def sleep : Program := fun words job =>
  let isTime (word : Chars) : Bool :=
    let body := if word.getLast?.any fun c => "smhd".toList.contains c then word.dropLast else word
    (fixed? body).isSome
  match words with
  | [] => job.misused "sleep" "missing operand".toList 1
  | words =>
    match words.find? fun word => !isTime word with
    | some word => job.misused "sleep" ("invalid time interval ".toList ++ inCurls word) 1
    | none => job

/-- Prints who runs the program. -/
def identity : Program := fun words job =>
  job.printLine
    (if words == ["-u".toList] || words == ["-g".toList] || words == ["-G".toList] then ['0']
     else if words == ["-un".toList] || words == ["-gn".toList] then "root".toList
     else "uid=0(root) gid=0(root) groups=0(root)".toList)

/-- Prints a line over and over; what reads it has enough of it at some time. -/
def yes : Program := fun words job =>
  let line := if words.isEmpty then ['y'] else [' '].intercalate words
  job.print (List.replicate 1000 (line ++ ['\n'])).flatten

/-- The programs that run no shell, by their names. -/
def catalog : List (String × Program) :=
  [("true", fun _ job => job), ("false", fun _ job => { job with status := 1 }),
   ("echo", fun words job => job.print (Printing.echoProgram words)), ("printf", printf),
   ("test", test false), ("[", test true),
   ("pwd", fun _ job => job.printLine (bytesOf ("/" ++ "/".intercalate job.disk.cwd))),
   ("ls", ls), ("cat", cat), ("touch", touch), ("mkdir", mkdir), ("rmdir", rmdir), ("rm", rm),
   ("cp", cp), ("mv", mv), ("ln", ln), ("readlink", readlink), ("realpath", realpath),
   ("chmod", chmod), ("stat", stat), ("tee", tee), ("wc", wc), ("head", endPart "head" true),
   ("tail", endPart "tail" false), ("sort", sort), ("uniq", uniq), ("tr", tr), ("cut", cut),
   ("seq", seq), ("basename", basename), ("dirname", dirname), ("tac", tac), ("rev", rev),
   ("nl", nl), ("paste", paste), ("fold", fold), ("sha256sum", digests), ("cmp", cmp),
   ("diff", diff), ("grep", grepWith false false), ("egrep", grepWith true false),
   ("fgrep", grepWith false true), ("sed", sed), ("expr", expr), ("find", find), ("xargs", xargs),
   ("env", env), ("printenv", printenv), ("sleep", sleep), ("id", identity), ("yes", yes),
   ("sync", fun _ job => job), ("whoami", fixedLine "whoami" "root"),
   ("arch", fixedLine "arch" "x86_64"),
   ("uname", fun words job =>
     job.printLine (if words == ["-m".toList] then "x86_64" else "Linux").toList),
   ("nice", plainRunner
     (fun name =>
       "nice: ".toList ++ inCurls name ++ ": No such file or directory".toList) 0 "nice"),
   ("nohup", plainRunner
     (fun name => "nohup: failed to run command ".toList ++ inQuotes name ++
       ": No such file or directory".toList) 0 "nohup"),
   ("timeout", plainRunner
     (fun name => "timeout: failed to run command ".toList ++ inCurls name ++
       ": No such file or directory".toList) 1 "timeout")]

/-- The names of the shell itself as a program. -/
def shellNames : List String := ["sh", "dash"]

/-- There is such a program. -/
def isKnown (name : String) : Bool :=
  (catalog.lookup name).isSome || shellNames.contains name || name == "which"

/-- Tells where programs are. -/
def which : Program := withOptions "which" { letters := "a" } fun given job =>
  if given.words.isEmpty then { job with status := 1 }
  else
    forEach
      (fun word job =>
        if isKnown (textOf word) then job.printLine ("/usr/bin/".toList ++ word)
        else { job with status := 1 })
      given.words job

/-- The program of a name. -/
def ofName? (name : String) : Option Program :=
  if name == "which" then some which else catalog.lookup name

/-- The name of the program that a path of the usual directories leads to. -/
def ofPath? (path : Chars) : Option String :=
  let found := ["/bin/", "/usr/bin/"].findSome? fun start =>
    if start.toList.isPrefixOf path then some (String.ofList (path.drop start.length)) else none
  found.filter isKnown

end Scaffold.Shell.Program
