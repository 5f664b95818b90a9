import EntityScaffold.Templates.Store

/-! # Bundled templates

The default templates for database contexts, C# classes and TypeScript interfaces. Each is given by its
lines.
-/

namespace EntityScaffold.Bundled

/-- The text of some lines, each with a line break at its end. -/
def lines (all : List String) : String := String.join (all.map (· ++ "\n"))

/-! ## Database contexts -/

/-- The database context: its imports, constructor and sets are templates of their own. -/
def dbContext : String := lines
  ["\x7b\x7b> dbimports\x7d\x7d",
    "",
    "namespace \x7b\x7bnamespace\x7d\x7d",
    "\x7b",
    "\x7b\x7bspaces 4\x7d\x7dpublic partial class \x7b\x7bcontext_name\x7d\x7d : DbContext",
    "\x7b\x7bspaces 4\x7d\x7d\x7b",
    "\x7b\x7b> dbconstructor\x7d\x7d",
    "\x7b\x7b> dbsets\x7d\x7d",
    "    \x7d",
    "\x7d"]

/-- The imports of a database context. -/
def dbImports : String := lines
  ["using System;",
    "using Microsoft.EntityFrameworkCore;"]

/-- The constructor of a database context. -/
def dbConstructor : String := lines
  ["\x7b\x7bspaces 8\x7d\x7dpublic \x7b\x7bcontext_name\x7d\x7d(DbContextOptions<\x7b\x7bcontext_name\x7d\x7d> options)",
    "\x7b\x7bspaces 12\x7d\x7d: base(options)",
    "\x7b\x7bspaces 8\x7d\x7d\x7b",
    "        \x7d"]

/-- One set for each entity type. -/
def dbSets : String := lines
  ["\x7b\x7b#each entity_types\x7d\x7d",
    "",
    "\x7b\x7bspaces 8\x7d\x7dpublic virtual DbSet<\x7b\x7bentity_name\x7d\x7d> \x7b\x7bdb_set_name\x7d\x7d \x7b get; set; \x7d",
    "\x7b\x7b/each\x7d\x7d"]

/-! ## C# classes -/

/-- A C# class: its imports, constructor and properties are templates of their own. -/
def csharpClass : String := lines
  ["\x7b\x7b> imports\x7d\x7d",
    "",
    "namespace \x7b\x7bnamespace\x7d\x7d",
    "\x7b",
    "\x7b\x7bspaces 4\x7d\x7dpublic partial class \x7b\x7bclass_name\x7d\x7d",
    "\x7b\x7bspaces 4\x7d\x7d\x7b",
    "\x7b\x7b> constructor\x7d\x7d",
    "\x7b\x7b> properties\x7d\x7d",
    "    \x7d",
    "\x7d"]

/-- One line for each namespace. -/
def csharpImports : String := lines
  ["\x7b\x7b#each imports\x7d\x7d",
    "using \x7b\x7bname\x7d\x7d;",
    "\x7b\x7b/each\x7d\x7d"]

/-- A constructor that creates the collections, if there are any. -/
def csharpConstructor : String := lines
  ["\x7b\x7b#if has_collections\x7d\x7d",
    "\x7b\x7bspaces 8\x7d\x7dpublic \x7b\x7bclass_name\x7d\x7d()",
    "\x7b\x7bspaces 8\x7d\x7d\x7b",
    "\x7b\x7b#each nav_properties\x7d\x7d",
    "\x7b\x7b#if is_collection\x7d\x7d",
    "\x7b\x7bspaces 12\x7d\x7d\x7b\x7bproperty_name\x7d\x7d = new HashSet<\x7b\x7belement_type\x7d\x7d>();",
    "\x7b\x7b/if\x7d\x7d",
    "\x7b\x7b/each\x7d\x7d",
    "        \x7d",
    "",
    "\x7b\x7b/if\x7d\x7d"]

/-- One line for each property and then for each navigation. -/
def csharpProperties : String := lines
  ["\x7b\x7b#each properties\x7d\x7d",
    "\x7b\x7bspaces 8\x7d\x7dpublic \x7b\x7bproperty_type\x7d\x7d \x7b\x7bproperty_name\x7d\x7d \x7b get; set; \x7d",
    "\x7b\x7b/each\x7d\x7d",
    "\x7b\x7b#each nav_properties\x7d\x7d",
    "\x7b\x7bspaces 8\x7d\x7dpublic virtual \x7b\x7bproperty_type\x7d\x7d \x7b\x7bproperty_name\x7d\x7d \x7b get; set; \x7d",
    "\x7b\x7b/each\x7d\x7d"]

/-! ## TypeScript interfaces -/

/-- A TypeScript interface: its imports and properties are templates of their own. -/
def typescriptInterface : String := lines
  ["\x7b\x7b> imports\x7d\x7d",
    "",
    "export interface \x7b\x7bclass_name\x7d\x7d \x7b",
    "\x7b\x7b> properties\x7d\x7d",
    "\x7d"]

/-- One line for each imported type. -/
def typescriptImports : String := lines
  ["\x7b\x7b#each imports\x7d\x7d",
    "import \x7b \x7b\x7bname\x7d\x7d \x7d from '\x7b\x7bpath\x7d\x7d';",
    "\x7b\x7b/each\x7d\x7d"]

/-- One line for each property and then for each navigation. -/
def typescriptProperties : String := lines
  ["\x7b\x7b#each properties\x7d\x7d",
    "\x7b\x7bspaces 2\x7d\x7d\x7b\x7bproperty_name\x7d\x7d\x7b\x7b#if property_is_nullable\x7d\x7d?\x7b\x7b/if\x7d\x7d: \x7b\x7bproperty_type\x7d\x7d;",
    "\x7b\x7b/each\x7d\x7d",
    "\x7b\x7b#each nav_properties\x7d\x7d",
    "\x7b\x7bspaces 2\x7d\x7d\x7b\x7bproperty_name\x7d\x7d?: \x7b\x7bproperty_type\x7d\x7d;",
    "\x7b\x7b/each\x7d\x7d"]

/-! ## All templates -/

/-- The bundled templates with their paths. -/
def all : List (String × String) :=
  [("CSharpDbContext/DbContext.hbs", dbContext),
    ("CSharpDbContext/Partials/DbImports.hbs", dbImports),
    ("CSharpDbContext/Partials/DbConstructor.hbs", dbConstructor),
    ("CSharpDbContext/Partials/DbSets.hbs", dbSets),
    ("CSharpEntityType/Class.hbs", csharpClass),
    ("CSharpEntityType/Partials/Imports.hbs", csharpImports),
    ("CSharpEntityType/Partials/Constructor.hbs", csharpConstructor),
    ("CSharpEntityType/Partials/Properties.hbs", csharpProperties),
    ("TypeScriptEntityType/Interface.hbs", typescriptInterface),
    ("TypeScriptEntityType/Partials/Imports.hbs", typescriptImports),
    ("TypeScriptEntityType/Partials/Properties.hbs", typescriptProperties)]

/-- The bundled templates. -/
def store : TemplateStore := .ofList all

end EntityScaffold.Bundled
