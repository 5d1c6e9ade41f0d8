import PathExpr.Config.Basic
import PathExpr.Text.Case
import PathExpr.World

/-!
# Constants

The identifiers of the constant namespace: facts about the processor and the
operating system, and the package that the configuration names.
-/

namespace PathExpr.Table

open PathExpr.Text

/-- Other names of processors, and the name that stands for them. -/
def architectureAliases : List (String × String) := [
  ("amd64", "x86_64"), ("x64", "x86_64"), ("arm64", "aarch64"), ("i386", "x86"),
  ("i586", "x86"), ("i686", "x86"), ("armv7l", "arm"), ("armv6l", "arm"),
  ("ppc64le", "powerpc64")]

/-- The names of processors among Debian packages. -/
def debianArchitectures : List (String × String) := [
  ("x86_64", "amd64"), ("amd64", "amd64"), ("aarch64", "arm64"), ("arm64", "arm64"),
  ("riscv64", "riscv64"), ("armv7l", "armhf"), ("armv6l", "armel"), ("armv5tel", "armel"),
  ("mips", "mipsel"), ("mips64", "mips64el"), ("s390x", "s390x"), ("ppc64le", "ppc64el"),
  ("i386", "i386"), ("i586", "i386"), ("i686", "i386"), ("x86", "i386")]

/-- Platforms known by the beginning of their name. -/
def platformFamilies : List String := ["linux", "freebsd", "openbsd", "netbsd", "dragonfly"]

/-- The processor. -/
def architecture (world : World) : String :=
  let machine := lower world.machine
  (architectureAliases.lookup machine).getD machine

/-- The processor as Debian packages call it. -/
def debianArchitecture (world : World) : String :=
  (debianArchitectures.lookup (lower world.machine)).getD (architecture world)

/-- The operating system. -/
def osName (world : World) : String :=
  if world.android then "android"
  else if world.isWindows then "windows"
  else if world.isMac then "macos"
  else (platformFamilies.find? fun family => startsWith family world.platform).getD world.platform

/-- Whether the operating system belongs to the Windows family. -/
def isNt (world : World) : Bool := world.family == "nt"

/-- The value of a constant. -/
def constant? (world : World) (pkgName pkgVersion ident : String) : Option String :=
  match ident with
  | "arch" | "architecture" => some (architecture world)
  | "deb_arch" | "deb-arch" => some (debianArchitecture world)
  | "os" => some (osName world)
  | "family" => some (if isNt world then "windows" else "unix")
  | "exe_suffix" => some (if isNt world then ".exe" else "")
  | "exe_extension" => some (if isNt world then "exe" else "")
  | "pkg" | "pkg_name" | "pkg-name" => some pkgName
  | "pkg_version" | "pkg-version" | "ver" => if pkgVersion = "" then none else some pkgVersion
  | "empty" => some ""
  | _ => none

end PathExpr.Table
