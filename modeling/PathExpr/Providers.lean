import PathExpr.Expr.Chain
import PathExpr.Table.Constants
import PathExpr.Table.Directories
import PathExpr.Table.ProjectDirs

/-!
# Providers

A provider gives an identifier its value.  There is one for each namespace; the
built-in ones read the machine and the configuration.
-/

namespace PathExpr

open PathExpr.Expr

/-- A source of values for each namespace. -/
structure Providers where
  env : Lookup
  const : Lookup
  dir : Lookup
  val : Lookup
  proj : ProjectLookup

/-- The value of an environment variable; the empty name has none. -/
def envValue? (world : World) (name : String) : Option String :=
  if name = "" then none else world.envVar? name

/-- The built-in sources. -/
def Providers.builtIn (world : World) (config : Config) : Providers where
  env name := return envValue? world name
  const ident := return Table.constant? world config.pkgName config.pkgVersion ident
  dir ident := Table.directory? world config.pkgName (some (config.randLength : Int)) ident
  val ident := Traced.ofExcept (Table.produced? world (some (config.randLength : Int)) ident)
  proj ident group := Traced.ofExcept (Table.projectEntry? world ident group)

/-- How the built-in sources are described. -/
def Providers.builtInDescription : String :=
  "<Providers env='env_var' const='<lambda>' dir='<lambda>' proj='match_proj_dirs' " ++
  "val='<lambda>'>"

end PathExpr
