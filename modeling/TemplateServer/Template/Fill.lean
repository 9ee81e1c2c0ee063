import TemplateServer.Template.Basic
import TemplateServer.Random.Word

namespace TemplateServer.Template

variable {σ : Type} [WordSource σ]

def placeholder (name : Text) : Text := '[' :: name ++ [']']

def choices : List OptionList → σ → List Text × σ
  | [], s => ([], s)
  | l :: rest, s =>
    let (choice, s) := WordSource.choose l.options s
    let (others, s) := choices rest s
    (choice :: others, s)

def substitute : List OptionList → List Text → Text → Text
  | l :: lists, choice :: choices, out =>
    substitute lists choices (Text.replaceAll (placeholder l.name) choice out)
  | _, _, out => out

def fill (t : Template) (s : σ) : Text × σ :=
  let (drawn, s) := choices t.lists s
  (substitute t.lists drawn t.body, s)

def render (source : Text) (s : σ) : Text × σ := (parse source).fill s

theorem length_choices (lists : List OptionList) (s : σ) :
    (choices lists s).1.length = lists.length := by
  induction lists generalizing s with
  | nil => rfl
  | cons l rest ih => simp [choices, ih]

end TemplateServer.Template
