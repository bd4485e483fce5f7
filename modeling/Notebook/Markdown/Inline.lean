import Notebook.Text.Trim
import Notebook.Unicode.Letter
import Notebook.Unicode.Numeric

/-!
# Tags and links on a line

A tag is a number sign and a name, at the start of the line or after a character that may stand
before a tag. A wiki link is a target in double brackets, perhaps with a heading after a number sign
and a label after a bar.

Both are found from left to right. A tag or link that is found is passed over before the next one is
looked for, together with the character before a tag; so one character cannot stand before two tags.
-/

namespace Notebook.Markdown

open Unicode

/-! ### Tags -/

/-- Whether a character starts the name of a tag. -/
def startsTag (c : Char) : Bool := isLetter c || isNumber c || c == '_'

/-- Whether a character continues the name of a tag. -/
def continuesTag (c : Char) : Bool := startsTag c || c == '/' || c == '-'

/-- The name of the tag at the start of a text, and what follows it. -/
def tagAt? (cs : List Char) : Option (List Char × List Char) :=
  match cs with
  | '#' :: c :: rest =>
    if startsTag c then some (c :: rest.takeWhile continuesTag, rest.dropWhile continuesTag)
    else none
  | _ => none

theorem length_of_tagAt? {cs name after : List Char} (h : tagAt? cs = some (name, after)) :
    after.length < cs.length := by
  unfold tagAt? at h
  split at h
  · next c rest =>
    split at h
    · cases h
      have := congrArg List.length
        (List.takeWhile_append_dropWhile (p := continuesTag) (l := rest))
      simp only [List.length_append] at this
      simp only [List.length_cons]
      omega
    · cases h
  · cases h

/-- The names of the tags after characters for which `leads` holds. -/
def tagsAfter (leads : Char → Bool) (cs : List Char) : List (List Char) :=
  match cs with
  | [] => []
  | c :: rest =>
    match _h : if leads c then tagAt? rest else none with
    | some (name, after) => name :: tagsAfter leads after
    | none => tagsAfter leads rest
termination_by cs.length
decreasing_by
  · split at _h
    · have := length_of_tagAt? _h
      simp only [List.length_cons]
      omega
    · cases _h
  · simp

/-- **The names of the tags** of a line, at its start or after characters for which `leads`
holds. -/
def tagNames (leads : Char → Bool) (line : List Char) : List (List Char) :=
  match tagAt? line with
  | some (name, after) => name :: tagsAfter leads after
  | none => tagsAfter leads line

/-- Whether a character may stand before a tag in the text of a note. -/
def leadsTag (c : Char) : Bool := isWhiteSpace c || c == '(' || c == ','

/-! ### Links -/

/-- Whether a character may be part of the target of a link. -/
def inTarget (c : Char) : Bool := !(c == ']' || c == '|' || c == '#')

/-- The text after a heading, if there is one at the start. -/
def dropHeading : List Char → List Char
  | '#' :: rest => rest.dropWhile fun c => !(c == ']' || c == '|')
  | cs => cs

/-- The text after a label, if there is one at the start. -/
def dropLabel : List Char → List Char
  | '|' :: rest => rest.dropWhile (· != ']')
  | cs => cs

/-- The target of the link whose brackets have just been opened, and what follows the link. -/
def linkTarget? (cs : List Char) : Option (List Char × List Char) :=
  match dropLabel (dropHeading (cs.dropWhile inTarget)) with
  | ']' :: ']' :: after =>
    let target := cs.takeWhile inTarget
    if target.isEmpty then none else some (target, after)
  | _ => none

theorem length_dropWhile_le (p : Char → Bool) (cs : List Char) :
    (cs.dropWhile p).length ≤ cs.length :=
  (List.dropWhile_suffix p).length_le

theorem length_dropHeading_le (cs : List Char) : (dropHeading cs).length ≤ cs.length := by
  unfold dropHeading
  split
  · exact Nat.le_succ_of_le (length_dropWhile_le ..)
  · exact Nat.le_refl _

theorem length_dropLabel_le (cs : List Char) : (dropLabel cs).length ≤ cs.length := by
  unfold dropLabel
  split
  · exact Nat.le_succ_of_le (length_dropWhile_le ..)
  · exact Nat.le_refl _

theorem length_of_linkTarget? {cs target after : List Char}
    (h : linkTarget? cs = some (target, after)) : after.length < cs.length := by
  have hle := Nat.le_trans (length_dropLabel_le (dropHeading (cs.dropWhile inTarget)))
    (Nat.le_trans (length_dropHeading_le _) (length_dropWhile_le inTarget cs))
  unfold linkTarget? at h
  split at h
  · next after' heq =>
    rw [heq, List.length_cons, List.length_cons] at hle
    dsimp only at h
    split at h
    · cases h
    · cases h
      omega
  · cases h

/-- **The targets of the wiki links** of a line, with the white space that is in them. -/
def linkTargets (cs : List Char) : List (List Char) :=
  match cs with
  | [] => []
  | c :: rest =>
    match _h : (match c, rest with
      | '[', '[' :: inner => linkTarget? inner
      | _, _ => none) with
    | some (target, after) => target :: linkTargets after
    | none => linkTargets rest
termination_by cs.length
decreasing_by
  · split at _h
    · have := length_of_linkTarget? _h
      simp only [List.length_cons]
      omega
    · cases _h
  · simp

end Notebook.Markdown
