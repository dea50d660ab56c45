import ProgramRepair.Utility.Canonical
import ProgramRepair.Utility.Characters
import ProgramRepair.Utility.Checksum
import ProgramRepair.Utility.Columns
import ProgramRepair.Utility.Date
import ProgramRepair.Utility.Difference
import ProgramRepair.Utility.Dump
import ProgramRepair.Utility.Encode
import ProgramRepair.Utility.Factor
import ProgramRepair.Utility.Fill
import ProgramRepair.Utility.Identity
import ProgramRepair.Utility.Install
import ProgramRepair.Utility.Linking
import ProgramRepair.Utility.Listing
import ProgramRepair.Utility.Merge
import ProgramRepair.Utility.Moving
import ProgramRepair.Utility.Pages
import ProgramRepair.Utility.Partition
import ProgramRepair.Utility.Precedence
import ProgramRepair.Utility.Removal
import ProgramRepair.Utility.Search
import ProgramRepair.Utility.Sections
import ProgramRepair.Utility.Shuffle
import ProgramRepair.Utility.StreamEditor
import ProgramRepair.Utility.Transfer
import ProgramRepair.Utility.Units
import ProgramRepair.Utility.Values

/-!
# The programs of the system

The programs that a command line can call by name, apart from those that run
command lines themselves. They count as files of the directory `/usr/bin`.
-/

namespace ProgramRepair.Utility

/-- The programs by name. -/
def catalogue : List (String × Utility) :=
  [("true", trueProgram), ("false", falseProgram), ("echo", echo), ("printf", printf),
   ("test", test), ("[", bracket), ("sleep", sleep), ("basename", basename), ("dirname", dirname),
   ("seq", seq), ("printenv", printenv), ("expr", expr), ("cat", cat), ("head", head),
   ("tail", tail), ("tee", tee), ("yes", yes), ("wc", wc), ("tr", tr), ("sort", sort),
   ("uniq", uniq), ("comm", comm), ("join", join), ("cut", cut), ("paste", paste), ("fold", fold),
   ("expand", expand), ("unexpand", unexpand), ("od", od), ("cmp", cmp), ("diff", diff),
   ("tac", tac), ("rev", rev), ("nl", nl), ("grep", grep), ("egrep", egrep), ("fgrep", fgrep),
   ("sed", sed), ("tsort", tsort), ("factor", factor), ("pr", pr), ("date", dateProgram),
   ("dd", dd), ("split", split), ("shuf", shuf), ("fmt", fmt),
   ("csplit", csplit), ("numfmt", numfmt)] ++
  [("mkdir", mkdir), ("mkfifo", mkfifo), ("mknod", mknod), ("touch", touch),
   ("truncate", truncate), ("mktemp", mktemp), ("ln", ln),
   ("link", link), ("install", install),
   ("rm", rm), ("unlink", unlink), ("rmdir", rmdir), ("mv", mv), ("cp", cp), ("chmod", chmod),
   ("readlink", readlink), ("realpath", realpath), ("stat", stat), ("ls", ls), ("dir", dir), ("vdir", vdir),
   ("pwd", pwd),
   ("cksum", cksum), ("b2sum", b2sum), ("sum", sumProgram), ("base64", encodeProgram "base64" .base64),
   ("base32", encodeProgram "base32" .base32)] ++
  [("uname", uname), ("arch", arch), ("hostname", hostname), ("nproc", nproc), ("tty", tty),
   ("sync", sync), ("whoami", whoami), ("id", idProgram), ("groups", groupsProgram),
   ("logname", logname), ("users", nobody), ("who", nobody)] ++
  DigestKind.all.map fun k => (k.program, digestProgram k)

/-- The program with a name. -/
def program? (name : String) : Option Utility := catalogue.lookup name

end ProgramRepair.Utility
