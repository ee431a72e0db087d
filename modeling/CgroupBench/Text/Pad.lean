/-!
# Padding

Text filled with blanks up to a width counted in characters; wider text stays as it is.
-/
namespace CgroupBench.Text

def blanks (text : String) (width : Nat) : String :=
  .ofList (List.replicate (width - text.length) ' ')

def padRight (width : Nat) (text : String) : String :=
  text ++ blanks text width

def padLeft (width : Nat) (text : String) : String :=
  blanks text width ++ text

end CgroupBench.Text
