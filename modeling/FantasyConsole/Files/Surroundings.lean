/-!
# Around a directory

A directory stands in a larger tree of files. Of that tree the usual directories are
known, some files and the devices. What the files hold is not known.
-/
namespace FantasyConsole

/-- Files that are no stored bytes: one that is empty and takes everything, the standard input, the
standard outputs, one that is full, those without end, and a terminal, which there is none of. -/
inductive DeviceFile where
  | null | input | output | full | endless | terminal
  deriving DecidableEq, Repr

/-- A directory: the one that is modelled, or one by its names from the root on. -/
inductive Place where
  | here
  | under (names : List String)
  deriving DecidableEq, Repr

/-- What is known to be somewhere. -/
inductive Known where
  | directory (place : Place)
  | file
  | device (f : DeviceFile)
  deriving DecidableEq, Repr

namespace Known

/-- Directories, with the names in each that are directories as well. -/
def directories : List (String × List String) :=
  [("", ["boot", "dev", "etc", "home", "media", "mnt", "opt", "proc", "root", "run", "srv", "sys",
      "tmp", "usr", "var"]),
    ("dev", ["mqueue", "pts", "shm"]),
    ("etc", ["alternatives", "apt", "ca-certificates", "cron.d", "cron.daily", "default", "dpkg",
      "init.d", "kernel", "ld.so.conf.d", "logrotate.d", "opt", "pam.d", "profile.d", "security",
      "selinux", "skel", "ssh", "ssl", "sysctl.d", "systemd", "terminfo", "update-motd.d"]),
    ("etc/ssl", ["certs", "private"]),
    ("proc", ["1", "bus", "driver", "fs", "irq", "self", "sys", "sysvipc", "thread-self", "tty"]),
    ("proc/self", ["attr", "fd", "fdinfo", "map_files", "net", "ns", "task"]),
    ("proc/sys", ["fs", "kernel", "net", "vm"]),
    ("run", ["lock"]),
    ("sys", ["block", "bus", "class", "dev", "devices", "firmware", "fs", "kernel", "module",
      "power"]),
    ("sys/fs", ["cgroup"]),
    ("usr", ["bin", "games", "include", "lib", "lib64", "libexec", "local", "sbin", "share",
      "src"]),
    ("usr/lib", ["apt", "dpkg", "locale", "ssl", "x86_64-linux-gnu"]),
    ("usr/local", ["bin", "etc", "games", "include", "lib", "sbin", "share", "src"]),
    ("usr/share", ["bash-completion", "ca-certificates", "common-licenses", "dict", "doc", "dpkg",
      "fonts", "info", "keyrings", "locale", "man", "menu", "misc", "perl5", "pixmaps",
      "zoneinfo"]),
    ("var", ["backups", "cache", "lib", "local", "log", "mail", "opt", "spool", "tmp"]),
    ("var/cache", ["apt", "debconf", "ldconfig"]),
    ("var/lib", ["apt", "dpkg", "misc", "pam", "systemd"]),
    ("var/log", ["apt"]),
    ("var/spool", ["cron", "mail"])]

/-- Other names of directories. -/
def links : List (String × Place) :=
  [("bin", .under ["usr", "bin"]), ("sbin", .under ["usr", "sbin"]), ("lib", .under ["usr", "lib"]),
    ("lib64", .under ["usr", "lib64"]), ("dev/fd", .under ["proc", "self", "fd"]),
    ("proc/net", .under ["proc", "self", "net"]), ("proc/self/cwd", .here),
    ("proc/self/root", .under []), ("var/lock", .under ["run", "lock"]),
    ("var/run", .under ["run"])]

def devices : List (String × DeviceFile) :=
  [("dev/null", .null), ("dev/full", .full), ("dev/zero", .endless), ("dev/random", .endless),
    ("dev/urandom", .endless), ("dev/tty", .terminal), ("dev/stdin", .input),
    ("dev/stdout", .output), ("dev/stderr", .output), ("proc/self/fd/0", .input),
    ("proc/self/fd/1", .output), ("proc/self/fd/2", .output)]

/-- Directories, with the names in each that are files. -/
def files : List (String × List String) :=
  [("etc", ["bash.bashrc", "debian_version", "environment", "fstab", "group", "gshadow",
      "host.conf", "hostname", "hosts", "issue", "issue.net", "ld.so.cache", "ld.so.conf",
      "localtime", "login.defs", "motd", "mtab", "nsswitch.conf", "os-release", "passwd",
      "profile", "resolv.conf", "shadow", "shells", "timezone"]),
    ("proc", ["cmdline", "cpuinfo", "devices", "filesystems", "interrupts", "loadavg", "meminfo",
      "modules", "mounts", "partitions", "stat", "swaps", "uptime", "version"]),
    ("proc/self", ["cmdline", "comm", "environ", "exe", "io", "limits", "maps", "mem", "mountinfo",
      "mounts", "stat", "statm", "status"]),
    ("root", [".bashrc", ".profile"]),
    ("usr/bin", ["bash", "cat", "cp", "dash", "echo", "env", "false", "grep", "ls", "perl", "sed",
      "sh", "true"]),
    ("usr/lib", ["os-release"])]

/-- What is known of a name in a directory. -/
def find? (directory : List String) (name : String) : Option Known :=
  let within := String.intercalate "/" directory
  let whole := String.intercalate "/" (directory ++ [name])
  let isIn (table : List (String × List String)) : Bool :=
    table.any fun (d, names) => d == within && names.contains name
  if isIn directories then some (.directory (.under (directory ++ [name])))
  else if let some place := links.lookup whole then some (.directory place)
  else if let some f := devices.lookup whole then some (.device f)
  else if isIn files then some .file
  else none

end Known

/-- The directory that holds another one. The modelled one stands among temporary files, and the
root in itself. -/
def Place.above : Place → Place
  | .here => .under ["tmp"]
  | .under names => .under names.dropLast

end FantasyConsole
