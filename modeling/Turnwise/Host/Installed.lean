import Turnwise.Host.Shell.Start
import Turnwise.Host.Utility.Arguments
import Turnwise.Host.Utility.Awk
import Turnwise.Host.Utility.Columns
import Turnwise.Host.Utility.Difference
import Turnwise.Host.Utility.Dump
import Turnwise.Host.Utility.Find
import Turnwise.Host.Utility.Grep
import Turnwise.Host.Utility.Listing
import Turnwise.Host.Utility.Numbering
import Turnwise.Host.Utility.Processes
import Turnwise.Host.Utility.Repeats
import Turnwise.Host.Utility.Sed
import Turnwise.Host.Utility.Sorting

/-!
# Installed programs

The disk of a new system holds the utilities, the devices and a list of users.  A
program is started by its name; programs start programs, and how deep that goes is
limited, so that the meaning of each is well defined.
-/

namespace Turnwise
namespace Host
namespace Installed

/-- The tools that start no other programs. -/
def tools : List (String × Work) :=
  [("[", Utility.test true), ("base64", Utility.base64), ("basename", Utility.basename),
    ("cat", Utility.cat), ("chmod", Utility.chmod), ("cmp", Utility.cmp), ("comm", Utility.comm),
    ("cp", Utility.cp), ("cut", Utility.cut), ("date", Utility.date), ("diff", Utility.diff),
    ("dirname", Utility.dirname), ("echo", Utility.echo), ("egrep", Utility.grep 'E'),
    ("expand", Utility.expand), ("expr", Utility.expr), ("false", Utility.failing),
    ("fgrep", Utility.grep 'F'), ("fold", Utility.fold), ("grep", Utility.grep 'G'),
    ("head", Utility.head), ("hostname", Utility.hostname), ("id", Utility.idTool),
    ("link", Utility.link), ("ln", Utility.ln), ("ls", Utility.ls), ("mkdir", Utility.mkdir),
    ("mkfifo", Utility.mkfifo), ("mktemp", Utility.mktemp), ("mv", Utility.mv),
    ("nl", Utility.nl), ("nproc", Utility.nproc), ("od", Utility.od),
    ("paste", Utility.paste), ("printenv", Utility.printenv), ("printf", Utility.printf),
    ("pwd", Utility.pwd), ("readlink", Utility.readlink), ("realpath", Utility.realpath),
    ("rev", Utility.rev), ("rm", Utility.rm), ("rmdir", Utility.rmdir), ("sed", Utility.sed),
    ("seq", Utility.seq), ("sleep", Utility.sleep), ("sort", Utility.sort),
    ("stat", Utility.stat), ("sync", Utility.succeed), ("tac", Utility.tac),
    ("tail", Utility.tail), ("tee", Utility.tee), ("test", Utility.test false),
    ("touch", Utility.touch), ("tr", Utility.tr), ("true", Utility.succeed),
    ("truncate", Utility.truncate), ("tty", Utility.tty), ("uname", Utility.uname),
    ("uniq", Utility.uniq), ("unlink", Utility.unlink), ("wc", Utility.wc),
    ("which", Utility.which), ("whoami", Utility.whoami), ("yes", Utility.yes)]

/-- The tools that start other programs. -/
def starters : List (String × (Launch → Work)) :=
  [("awk", Utility.awk), ("env", Utility.env), ("find", Utility.find),
    ("mawk", Utility.awk), ("nice", Utility.nice), ("nohup", Utility.nohup),
    ("setsid", Utility.setsid), ("timeout", Utility.timeout), ("xargs", Utility.xargs)]

/-- The shells. -/
def shells : List (String × Script.Dialect) :=
  [("bash", .rich), ("dash", .plain), ("sh", .plain)]

/-- All utilities. -/
def names : List String :=
  tools.map (·.1) ++ starters.map (·.1) ++ shells.map (·.1)

/-- All that a utility does, given how it starts others; an unknown one is killed. -/
def utility (launch : Launch) (name : Octets) (start : Start) : Task :=
  match tools.find? (·.1.toList == name) with
  | some (_, work) => work.task start
  | none =>
      match starters.find? (·.1.toList == name) with
      | some (_, work) => (work launch).task start
      | none =>
          match shells.find? (·.1.toList == name) with
          | some (_, dialect) => Shell.run dialect launch start
          | none => .done (.signalled .kill)

/-- How utilities are started, when programs start programs up to a depth; what goes
deeper runs forever. -/
def launchWithin : (depth : Nat) → Launch
  | 0 => fun _ _ => Program.task Program.spin
  | depth + 1 => utility (launchWithin depth)

/-- How utilities are started. -/
def launch : Launch :=
  launchWithin 1000

/-- The list of users. -/
def users : Octets :=
  ("root:x:0:0:root:/root:/bin/bash\n" ++
    "daemon:x:1:1:daemon:/usr/sbin:/usr/sbin/nologin\n" ++
    "bin:x:2:2:bin:/bin:/usr/sbin/nologin\n" ++
    "sys:x:3:3:sys:/dev:/usr/sbin/nologin\n" ++
    "sync:x:4:65534:sync:/bin:/bin/sync\n" ++
    "games:x:5:60:games:/usr/games:/usr/sbin/nologin\n" ++
    "man:x:6:12:man:/var/cache/man:/usr/sbin/nologin\n" ++
    "lp:x:7:7:lp:/var/spool/lpd:/usr/sbin/nologin\n" ++
    "mail:x:8:8:mail:/var/mail:/usr/sbin/nologin\n" ++
    "news:x:9:9:news:/var/spool/news:/usr/sbin/nologin\n" ++
    "uucp:x:10:10:uucp:/var/spool/uucp:/usr/sbin/nologin\n" ++
    "proxy:x:13:13:proxy:/bin:/usr/sbin/nologin\n" ++
    "www-data:x:33:33:www-data:/var/www:/usr/sbin/nologin\n" ++
    "backup:x:34:34:backup:/var/backups:/usr/sbin/nologin\n" ++
    "list:x:38:38:Mailing List Manager:/var/list:/usr/sbin/nologin\n" ++
    "irc:x:39:39:ircd:/run/ircd:/usr/sbin/nologin\n" ++
    "_apt:x:42:65534::/nonexistent:/usr/sbin/nologin\n" ++
    "nobody:x:65534:65534:nobody:/nonexistent:/usr/sbin/nologin\n").toList

/-- The devices. -/
def devices : List (String × Device) :=
  [("/dev/null", .null), ("/dev/zero", .zero), ("/dev/full", .full), ("/dev/tty", .terminal),
    ("/dev/random", .zero), ("/dev/urandom", .zero), ("/dev/stdin", .descriptor 0),
    ("/dev/stdout", .descriptor 1), ("/dev/stderr", .descriptor 2)] ++
    (List.range 10).map fun number => ("/dev/fd/" ++ toString number, .descriptor number)

/-- The directories of a new system. -/
def directories : List String :=
  ["/dev", "/etc", "/home", "/root", "/run", "/tmp", "/usr/bin", "/usr/lib", "/usr/sbin",
    "/usr/local/bin", "/usr/local/sbin", "/var"]

/-- The links at the root. -/
def links : List (String × String) :=
  [("/bin", "usr/bin"), ("/lib", "usr/lib"), ("/sbin", "usr/sbin")]

/-- The disk of a new system. -/
def disk : Disk :=
  let made := directories.foldl (fun disk path => disk.placeDirectory path.toList) Disk.empty
  let linked := links.foldl
    (fun disk (path, target) => disk.place path.toList (.link target.toList) 0o777) made
  let equipped := devices.foldl
    (fun disk (path, device) => disk.place path.toList (.device device) 0o666) linked
  let listed := equipped.place "/etc/passwd".toList (.file (Octets.toArray users)) 0o644
  names.foldl
    (fun disk name =>
      disk.place ("/usr/bin/".toList ++ name.toList)
        (.file (Octets.toArray (Image.content name.toList))) 0o755) listed

/-- Where programs are looked for. -/
def searchPath : Text :=
  "/usr/local/sbin:/usr/local/bin:/usr/sbin:/usr/bin:/sbin:/bin".toList

end Installed
end Host
end Turnwise
