import Scheduler0.Utils.Errors
import Scheduler0.Utils.Binary
import Scheduler0.Utils.Snapshot
import Scheduler0.Fsm.Store
import Scheduler0.Repository.Project
import Scheduler0.Repository.ProjectInvariants
import Scheduler0.Repository.ProjectBatch
import Scheduler0.Repository.ProjectDelete
import Scheduler0.HttpServer.Middleware
import Scheduler0.Repository.ProjectReadBack
import Scheduler0.HttpServer.Start
