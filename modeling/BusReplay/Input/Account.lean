import BusReplay.Text.Fields

/-!
# The home directory of an account

The table of accounts has a line for each of them, with fields between colons. The third field is
the number of the user, and the sixth the home directory. The status file of a process has a line
that names its user by number.
-/

namespace BusReplay.Account

/-- The number of the user that a process was started by, from its status file. -/
def userOfStatus? (status : String) : Option String :=
  (Text.fields '\n' status.toList).findSome? fun line ↦
    match Text.fields '\t' line with
    | label :: number :: _ => if label = "Uid:".toList then some (.ofList number) else none
    | _ => none

/-- The home directory of the user with a number, from the table of accounts. -/
def homeOf? (table number : String) : Option String :=
  (Text.fields '\n' table.toList).findSome? fun line ↦
    match Text.fields ':' line with
    | [_, _, user, _, _, home, _] => if user = number.toList then some (.ofList home) else none
    | _ => none

end BusReplay.Account
