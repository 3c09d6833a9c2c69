import DocAssembly.Proofs.Outputs
import Mathlib

namespace DocAssembly.Project

variable {fs after : FileSystem} {project : Project} {outputs : List Path}

end DocAssembly.Project
