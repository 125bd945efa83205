import ProfileSession.Page.Basic
import ProfileSession.Page.Html
import ProfileSession.Profile

namespace ProfileSession

-- The user's picture, or a circle with the initial of the name.
def Profile.pictureHtml (p : Profile) : String :=
  match p.picture? with
  | some address =>
    "<img src=\"" ++ Html.escape address ++ "\" class=\"rounded-circle\" style=\"width: 150px; " ++
      "height: 150px; object-fit: cover;\" alt=\"Profile Picture\">"
  | none =>
    "<div class=\"rounded-circle bg-secondary d-flex align-items-center justify-content-center " ++
      "mx-auto\" style=\"width: 150px; height: 150px;\"><span class=\"text-white\" " ++
      "style=\"font-size: 3em;\">" ++ Html.escape p.initial ++ "</span></div>"

namespace Page

def contentOf (profile : Profile) : Slot → Content
  | .picture => .html profile.pictureHtml
  | .name => .text profile.name
  | .email => .text profile.email
  | .provider => .text profile.providerLabel
  | .tableName => .text profile.name
  | .tableEmail => .text profile.email
  | .tableProvider => .text profile.providerLabel

-- Writes a profile into every slot, one after the other.
def render (p : Page) (profile : Profile) : Page :=
  Slot.all.foldl (fun p slot => p.set slot (contentOf profile slot)) p

theorem slots_render (p : Page) (profile : Profile) (slot : Slot) :
    (p.render profile).slots slot = some (contentOf profile slot) := by
  cases slot <;> simp [render, Slot.all, slots_set]

end Page

end ProfileSession
