import RegisterScript.Block

/-!
# Blocks as script

A block is printed as the script that defines it, one statement for each write, macros expanded.
Reading a statement back fills an empty register to the very write it was printed from, except
that no statement can say that a texture uses its own alpha.
-/

namespace RegisterScript

/-- The version of the library.  The tools show it, and a script that was generated says which
version it comes from. -/
def version : String := "dev"

/-- The arguments of the statement for a write. -/
def Write.argumentsText : Write → String
  | prim p => " ".intercalate (p.modifiers.map Modifier.name)
  | tex0 t =>
    " ".intercalate
      [renderCell t.base, renderCell t.bufferWidth, renderCells [t.widthLog, t.heightLog],
        t.pixelFormat.name, t.function.name]
  | w => renderCells w.cells

/-- The statement for a write, without the mark that ends it. -/
def Write.statement (w : Write) : String := w.register.scriptName ++ " " ++ w.argumentsText

namespace ScriptText

/-- The line before the first block. -/
def header : String := "// Generated with GIFScript version " ++ version ++ "\n"

/-- The script of a block. -/
def render (b : Block) : String :=
  b.name ++ " \x7b\n"
    ++ String.join (b.unpackedWrites.map fun w => "\t" ++ w.statement ++ ";\n")
    ++ "\x7d\n"

end ScriptText

end RegisterScript
